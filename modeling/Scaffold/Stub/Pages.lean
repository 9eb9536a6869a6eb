import Scaffold.Code.Layout

/-!
# Stubs of the pages

The stubs of the pages that list, show and edit the records of an entity. Each line stands by itself.
-/
namespace Scaffold.Stub

/-- The list page. -/
def listPage : Text :=
  Code.written [
    "import \x7b Head, Link, router \x7d from '@inertiajs/react';",
    "import \x7b %%indexIcons%% \x7d from 'lucide-react';",
    "import \x7b useState \x7d from 'react';",
    "",
    "import \x7b Button \x7d from '@/components/ui/button';",
    "import \x7b Input \x7d from '@/components/ui/input';",
    "import \x7b Table, TableBody, TableCell, TableHead, TableHeader, TableRow \x7d from '@/components/ui/table';",
    "%%indexImports%%",
    "import AppLayout from '@/layouts/app-layout';",
    "import \x7b type BreadcrumbItem \x7d from '@/types';",
    "import \x7b %%typeImports%% \x7d from '@/types/%%routeNameSingular%%';",
    "",
    "const breadcrumbs: BreadcrumbItem[] = [\x7b title: '%%modelLabelPlural%%', href: '/%%routeName%%' \x7d];",
    "",
    "interface Props \x7b",
    "    %%modelVariablePlural%%: Paginated<%%modelName%%>;",
    "    filters: %%modelName%%Filters;",
    "    %%pageProps%%",
    "\x7d",
    "",
    "export default function Index(\x7b %%modelVariablePlural%%, filters%%pagePropNames%% \x7d: Props) \x7b",
    "    const [search, setSearch] = useState(filters.search ?? '');",
    "    %%filterState%%",
    "    %%detailState%%",
    "",
    "    const applyFilters = (overrides: Partial<%%modelName%%Filters> = \x7b\x7d) => \x7b",
    "        router.get('/%%routeName%%', \x7b ...filters, search, ...overrides \x7d, \x7b preserveState: true, replace: true \x7d);",
    "    \x7d;",
    "",
    "    const destroy = (id: number) => \x7b",
    "        if (confirm('Delete this %%modelLabel%%?')) \x7b",
    "            router.delete(`/%%routeName%%/$\x7bid\x7d`);",
    "        \x7d",
    "    \x7d;",
    "",
    "    return (",
    "        <AppLayout breadcrumbs=\x7bbreadcrumbs\x7d>",
    "            <Head title=\"%%modelLabelPlural%%\" />",
    "            <div className=\"flex flex-col gap-4 p-4\">",
    "                <div className=\"flex items-center justify-between gap-2\">",
    "                    <form",
    "                        className=\"flex flex-1 items-center gap-2\"",
    "                        onSubmit=\x7b(e) => \x7b",
    "                            e.preventDefault();",
    "                            applyFilters();",
    "                        \x7d\x7d",
    "                    >",
    "                        <Input",
    "                            placeholder=\"%%searchPlaceholder%%\"",
    "                            value=\x7bsearch\x7d",
    "                            onChange=\x7b(e) => setSearch(e.target.value)\x7d",
    "                            className=\"max-w-sm\"",
    "                        />",
    "                        <Button type=\"submit\" variant=\"outline\" size=\"icon\">",
    "                            <Search className=\"size-4\" />",
    "                        </Button>",
    "                        %%filterBadge%%",
    "                    </form>",
    "                    <Button asChild>",
    "                        <Link href=\"/%%routeName%%/create\">",
    "                            <Plus className=\"size-4\" /> New %%modelLabel%%",
    "                        </Link>",
    "                    </Button>",
    "                </div>",
    "                %%filterUi%%",
    "                <Table>",
    "                    <TableHeader>",
    "                        <TableRow>",
    "                            %%tableHeaders%%",
    "                            <TableHead className=\"w-32\" />",
    "                        </TableRow>",
    "                    </TableHeader>",
    "                    <TableBody>",
    "                        \x7b%%modelVariablePlural%%.data.map((%%jsVariable%%) => (",
    "                            <TableRow key=\x7b%%jsVariable%%.id\x7d>",
    "                                %%tableCells%%",
    "                                <TableCell className=\"flex justify-end gap-1\">",
    "                                    %%detailTrigger%%",
    "                                    <Button variant=\"ghost\" size=\"icon\" asChild>",
    "                                        <Link href=\x7b`/%%routeName%%/$\x7b%%jsVariable%%.id\x7d/edit`\x7d>",
    "                                            <Pencil className=\"size-4\" />",
    "                                        </Link>",
    "                                    </Button>",
    "                                    <Button variant=\"ghost\" size=\"icon\" onClick=\x7b() => destroy(%%jsVariable%%.id)\x7d>",
    "                                        <Trash2 className=\"size-4\" />",
    "                                    </Button>",
    "                                </TableCell>",
    "                            </TableRow>",
    "                        ))\x7d",
    "                    </TableBody>",
    "                </Table>",
    "                <div className=\"flex flex-wrap gap-1\">",
    "                    \x7b%%modelVariablePlural%%.links.map((link) => (",
    "                        <Button",
    "                            key=\x7blink.label\x7d",
    "                            variant=\x7blink.active ? 'default' : 'outline'\x7d",
    "                            size=\"sm\"",
    "                            disabled=\x7b!link.url\x7d",
    "                            onClick=\x7b() => link.url && router.get(link.url, \x7b\x7d, \x7b preserveState: true \x7d)\x7d",
    "                        >",
    "                            <span dangerouslySetInnerHTML=\x7b\x7b __html: link.label \x7d\x7d />",
    "                        </Button>",
    "                    ))\x7d",
    "                </div>",
    "                %%detailComponent%%",
    "            </div>",
    "        </AppLayout>",
    "    );",
    "\x7d"
  ]

/-- The page with the form of a new record. -/
def createPage : Text :=
  Code.written [
    "import \x7b Head, Link, useForm \x7d from '@inertiajs/react';",
    "import \x7b %%reactImports%% \x7d from 'react';",
    "",
    "import InputError from '@/components/input-error';",
    "import \x7b Button \x7d from '@/components/ui/button';",
    "import \x7b Label \x7d from '@/components/ui/label';",
    "%%formImports%%",
    "import AppLayout from '@/layouts/app-layout';",
    "import \x7b type BreadcrumbItem \x7d from '@/types';",
    "import \x7b %%typeImports%% \x7d from '@/types/%%routeNameSingular%%';",
    "",
    "const breadcrumbs: BreadcrumbItem[] = [",
    "    \x7b title: '%%modelLabelPlural%%', href: '/%%routeName%%' \x7d,",
    "    \x7b title: 'Create', href: '/%%routeName%%/create' \x7d,",
    "];",
    "",
    "interface Props \x7b",
    "    %%formProps%%",
    "\x7d",
    "",
    "export default function Create(\x7b %%formPropNames%% \x7d: Props) \x7b",
    "    const \x7b data, setData, post, processing, errors \x7d = useForm<%%modelName%%FormData>(\x7b",
    "        %%formDefaults%%",
    "    \x7d);",
    "    %%cascadeState%%",
    "",
    "    const submit: FormEventHandler = (e) => \x7b",
    "        e.preventDefault();",
    "        %%submitCall%%",
    "    \x7d;",
    "",
    "    return (",
    "        <AppLayout breadcrumbs=\x7bbreadcrumbs\x7d>",
    "            <Head title=\"Create %%modelLabel%%\" />",
    "            <form onSubmit=\x7bsubmit\x7d className=\"flex max-w-2xl flex-col gap-6 p-4\">",
    "                %%formFields%%",
    "                <div className=\"flex gap-2\">",
    "                    <Button type=\"submit\" disabled=\x7bprocessing\x7d>",
    "                        Save",
    "                    </Button>",
    "                    <Button variant=\"outline\" asChild>",
    "                        <Link href=\"/%%routeName%%\">Cancel</Link>",
    "                    </Button>",
    "                </div>",
    "            </form>",
    "        </AppLayout>",
    "    );",
    "\x7d"
  ]

/-- The page with the form of a record. -/
def editPage : Text :=
  Code.written [
    "import \x7b Head, Link, useForm \x7d from '@inertiajs/react';",
    "import \x7b %%reactImports%% \x7d from 'react';",
    "",
    "import InputError from '@/components/input-error';",
    "import \x7b Button \x7d from '@/components/ui/button';",
    "import \x7b Label \x7d from '@/components/ui/label';",
    "%%formImports%%",
    "import AppLayout from '@/layouts/app-layout';",
    "import \x7b type BreadcrumbItem \x7d from '@/types';",
    "import \x7b %%typeImports%% \x7d from '@/types/%%routeNameSingular%%';",
    "",
    "interface Props \x7b",
    "    %%modelVariable%%: %%modelName%%;",
    "    %%formProps%%",
    "\x7d",
    "",
    "export default function Edit(\x7b %%modelVariable%%: %%jsVariable%%%%formPropNames%% \x7d: Props) \x7b",
    "    const breadcrumbs: BreadcrumbItem[] = [",
    "        \x7b title: '%%modelLabelPlural%%', href: '/%%routeName%%' \x7d,",
    "        \x7b title: 'Edit', href: `/%%routeName%%/$\x7b%%jsVariable%%.id\x7d/edit` \x7d,",
    "    ];",
    "",
    "    const \x7b data, setData, %%submitMethod%%, processing, errors \x7d = useForm<%%modelName%%FormData>(\x7b",
    "        %%formDefaults%%",
    "    \x7d);",
    "    %%cascadeState%%",
    "",
    "    const submit: FormEventHandler = (e) => \x7b",
    "        e.preventDefault();",
    "        %%submitCall%%",
    "    \x7d;",
    "",
    "    return (",
    "        <AppLayout breadcrumbs=\x7bbreadcrumbs\x7d>",
    "            <Head title=\"Edit %%modelLabel%%\" />",
    "            <form onSubmit=\x7bsubmit\x7d className=\"flex max-w-2xl flex-col gap-6 p-4\">",
    "                %%formFields%%",
    "                <div className=\"flex gap-2\">",
    "                    <Button type=\"submit\" disabled=\x7bprocessing\x7d>",
    "                        Save",
    "                    </Button>",
    "                    <Button variant=\"outline\" asChild>",
    "                        <Link href=\"/%%routeName%%\">Cancel</Link>",
    "                    </Button>",
    "                </div>",
    "            </form>",
    "        </AppLayout>",
    "    );",
    "\x7d"
  ]

/-- The types that the pages share. -/
def types : Text :=
  Code.written [
    "%%typeHelpers%%",
    "",
    "export interface %%modelName%% \x7b",
    "    id: number;",
    "    %%modelAttributes%%",
    "    created_by: number | null;",
    "    created_at: string;",
    "    updated_at: string;",
    "\x7d",
    "",
    "export type %%modelName%%FormData = \x7b",
    "    %%formAttributes%%",
    "\x7d;",
    "",
    "export type %%modelName%%Filters = \x7b",
    "    search?: string;",
    "    %%filterAttributes%%",
    "\x7d;",
    "",
    "export interface Paginated<T> \x7b",
    "    data: T[];",
    "    links: \x7b url: string | null; label: string; active: boolean \x7d[];",
    "    current_page: number;",
    "    last_page: number;",
    "    total: number;",
    "\x7d",
    "%%optionConstants%%"
  ]

/-- The dialog that shows a record. -/
def detailDialog : Text :=
  Code.written [
    "%%detailImports%%",
    "import \x7b Dialog, DialogContent, DialogHeader, DialogTitle \x7d from '@/components/ui/dialog';",
    "import \x7b %%typeImports%% \x7d from '@/types/%%routeNameSingular%%';",
    "",
    "interface Props \x7b",
    "    %%jsVariable%%: %%modelName%% | null;",
    "    onClose: () => void;",
    "    %%pageProps%%",
    "\x7d",
    "",
    "export default function %%modelName%%DetailModal(\x7b %%jsVariable%%, onClose%%pagePropNames%% \x7d: Props) \x7b",
    "    return (",
    "        <Dialog open=\x7b%%jsVariable%% !== null\x7d onOpenChange=\x7b(open) => !open && onClose()\x7d>",
    "            <DialogContent className=\"max-h-[90vh] overflow-y-auto sm:max-w-2xl\">",
    "                <DialogHeader>",
    "                    <DialogTitle>%%modelLabel%%</DialogTitle>",
    "                </DialogHeader>",
    "                \x7b%%jsVariable%% && (",
    "                    <div className=\"grid gap-3 sm:grid-cols-2\">",
    "                        %%detailCards%%",
    "                    </div>",
    "                )\x7d",
    "            </DialogContent>",
    "        </Dialog>",
    "    );",
    "\x7d"
  ]

/-- The page that shows a record. -/
def detailPage : Text :=
  Code.written [
    "import \x7b Head, Link \x7d from '@inertiajs/react';",
    "import \x7b Pencil \x7d from 'lucide-react';",
    "",
    "%%detailImports%%",
    "import \x7b Button \x7d from '@/components/ui/button';",
    "import AppLayout from '@/layouts/app-layout';",
    "import \x7b type BreadcrumbItem \x7d from '@/types';",
    "import \x7b %%typeImports%% \x7d from '@/types/%%routeNameSingular%%';",
    "",
    "interface Props \x7b",
    "    %%modelVariable%%: %%modelName%%;",
    "    %%pageProps%%",
    "\x7d",
    "",
    "export default function Show(\x7b %%modelVariable%%: %%jsVariable%%%%pagePropNames%% \x7d: Props) \x7b",
    "    const breadcrumbs: BreadcrumbItem[] = [",
    "        \x7b title: '%%modelLabelPlural%%', href: '/%%routeName%%' \x7d,",
    "        \x7b title: '%%modelLabel%%', href: `/%%routeName%%/$\x7b%%jsVariable%%.id\x7d` \x7d,",
    "    ];",
    "",
    "    return (",
    "        <AppLayout breadcrumbs=\x7bbreadcrumbs\x7d>",
    "            <Head title=\"%%modelLabel%%\" />",
    "            <div className=\"flex max-w-4xl flex-col gap-4 p-4\">",
    "                <div className=\"flex justify-end\">",
    "                    <Button asChild>",
    "                        <Link href=\x7b`/%%routeName%%/$\x7b%%jsVariable%%.id\x7d/edit`\x7d>",
    "                            <Pencil className=\"size-4\" /> Edit",
    "                        </Link>",
    "                    </Button>",
    "                </div>",
    "                <div className=\"grid gap-3 sm:grid-cols-2\">",
    "                    %%detailCards%%",
    "                </div>",
    "            </div>",
    "        </AppLayout>",
    "    );",
    "\x7d"
  ]

end Scaffold.Stub

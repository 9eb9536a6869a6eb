import Scaffold.Code.Layout

/-!
# Stubs of the server side

The stubs of the classes that store, validate and serve the records of an entity. Each line stands by itself.
-/
namespace Scaffold.Stub

/-- The migration that creates the table. -/
def migration : Text :=
  Code.written [
    "<?php",
    "",
    "use Illuminate\\Database\\Migrations\\Migration;",
    "use Illuminate\\Database\\Schema\\Blueprint;",
    "use Illuminate\\Support\\Facades\\Schema;",
    "",
    "return new class extends Migration",
    "\x7b",
    "    /**",
    "     * Run the migrations.",
    "     */",
    "    public function up(): void",
    "    \x7b",
    "        Schema::create('%%tableName%%', function (Blueprint $table) \x7b",
    "            $table->id();",
    "            %%migrationColumns%%",
    "            %%migrationForeignKeys%%",
    "            $table->foreignId('created_by')->nullable()->constrained('users')->nullOnDelete();",
    "            $table->timestamps();",
    "        \x7d);",
    "    \x7d",
    "",
    "    /**",
    "     * Reverse the migrations.",
    "     */",
    "    public function down(): void",
    "    \x7b",
    "        Schema::dropIfExists('%%tableName%%');",
    "    \x7d",
    "\x7d;"
  ]

/-- The model. -/
def model : Text :=
  Code.written [
    "<?php",
    "",
    "namespace %%modelNamespace%%;",
    "",
    "%%modelImports%%",
    "",
    "class %%modelName%% extends Model%%modelInterfaces%%",
    "\x7b",
    "    %%modelTraits%%",
    "",
    "    protected $table = '%%tableName%%';",
    "",
    "    /**",
    "     * @var list<string>",
    "     */",
    "    protected $fillable = [",
    "        %%fillable%%",
    "    ];",
    "",
    "    /**",
    "     * @var array<string, string>",
    "     */",
    "    protected $casts = [",
    "        %%casts%%",
    "    ];",
    "    %%modelAppends%%",
    "    %%modelFactoryMethod%%",
    "",
    "    public function creator(): BelongsTo",
    "    \x7b",
    "        return $this->belongsTo(User::class, 'created_by');",
    "    \x7d",
    "    %%modelRelations%%",
    "    %%modelMediaMethods%%",
    "\x7d"
  ]

/-- The controller. -/
def controller : Text :=
  Code.written [
    "<?php",
    "",
    "namespace %%controllerNamespace%%;",
    "",
    "%%controllerImports%%",
    "",
    "class %%modelName%%Controller extends Controller",
    "\x7b",
    "    public function index(Request $request): Response",
    "    \x7b",
    "        $query = %%modelName%%::query()%%eagerLoads%%;",
    "        %%searchQuery%%",
    "        %%filterQuery%%",
    "",
    "        return Inertia::render('%%routeName%%/index', [",
    "            '%%modelVariablePlural%%' => $query->latest()->paginate(15)->withQueryString(),",
    "            'filters' => $request->only([%%filterKeys%%]),",
    "            ...$this->options(all: true),",
    "        ]);",
    "    \x7d",
    "",
    "    public function create(): Response",
    "    \x7b",
    "        return Inertia::render('%%routeName%%/create', $this->options());",
    "    \x7d",
    "",
    "    public function store(Store%%modelName%%Request $request): RedirectResponse",
    "    \x7b",
    "        $%%modelVariable%% = new %%modelName%%($request->safe()->except([%%mediaKeys%%]));",
    "        $%%modelVariable%%->created_by = $request->user()?->id;",
    "        $%%modelVariable%%->save();",
    "        %%mediaStore%%",
    "",
    "        return to_route('%%routeName%%.index')->with('success', '%%modelLabel%% created.');",
    "    \x7d",
    "    %%showMethod%%",
    "",
    "    public function edit(%%modelName%% $%%modelVariable%%): Response",
    "    \x7b",
    "        return Inertia::render('%%routeName%%/edit', [",
    "            '%%modelVariable%%' => $%%modelVariable%%,",
    "            ...$this->options($%%modelVariable%%),",
    "        ]);",
    "    \x7d",
    "",
    "    public function update(Update%%modelName%%Request $request, %%modelName%% $%%modelVariable%%): RedirectResponse",
    "    \x7b",
    "        $%%modelVariable%%->update($request->safe()->except([%%mediaKeys%%]));",
    "        %%mediaUpdate%%",
    "",
    "        return to_route('%%routeName%%.index')->with('success', '%%modelLabel%% updated.');",
    "    \x7d",
    "",
    "    public function destroy(%%modelName%% $%%modelVariable%%): RedirectResponse",
    "    \x7b",
    "        $%%modelVariable%%->delete();",
    "",
    "        return to_route('%%routeName%%.index')->with('success', '%%modelLabel%% deleted.');",
    "    \x7d",
    "    %%cascadeEndpoints%%",
    "",
    "    /**",
    "     * Option lists for the select controls of the pages.",
    "     *",
    "     * @return array<string, mixed>",
    "     */",
    "    private function options(?%%modelName%% $%%modelVariable%% = null, bool $all = false): array",
    "    \x7b",
    "        return [",
    "            %%optionQueries%%",
    "        ];",
    "    \x7d",
    "\x7d"
  ]

/-- The request that creates a record. -/
def storeRequest : Text :=
  Code.written [
    "<?php",
    "",
    "namespace %%requestNamespace%%;",
    "",
    "%%requestImports%%",
    "",
    "class Store%%modelName%%Request extends FormRequest",
    "\x7b",
    "    public function authorize(): bool",
    "    \x7b",
    "        return $this->user()?->can('%%routeName%%.create') ?? false;",
    "    \x7d",
    "",
    "    /**",
    "     * @return array<string, \\Illuminate\\Contracts\\Validation\\ValidationRule|array<mixed>|string>",
    "     */",
    "    public function rules(): array",
    "    \x7b",
    "        return [",
    "            %%storeRules%%",
    "        ];",
    "    \x7d",
    "\x7d"
  ]

/-- The request that changes a record. -/
def updateRequest : Text :=
  Code.written [
    "<?php",
    "",
    "namespace %%requestNamespace%%;",
    "",
    "%%requestImports%%",
    "",
    "class Update%%modelName%%Request extends FormRequest",
    "\x7b",
    "    public function authorize(): bool",
    "    \x7b",
    "        return $this->user()?->can('%%routeName%%.edit') ?? false;",
    "    \x7d",
    "",
    "    /**",
    "     * @return array<string, \\Illuminate\\Contracts\\Validation\\ValidationRule|array<mixed>|string>",
    "     */",
    "    public function rules(): array",
    "    \x7b",
    "        return [",
    "            %%updateRules%%",
    "        ];",
    "    \x7d",
    "\x7d"
  ]

/-- The factory that makes records up. -/
def factory : Text :=
  Code.written [
    "<?php",
    "",
    "namespace %%factoryNamespace%%;",
    "",
    "%%factoryImports%%",
    "",
    "/**",
    " * @extends Factory<%%modelName%%>",
    " */",
    "class %%modelName%%Factory extends Factory",
    "\x7b",
    "    protected $model = %%modelName%%::class;",
    "",
    "    /**",
    "     * @return array<string, mixed>",
    "     */",
    "    public function definition(): array",
    "    \x7b",
    "        return [",
    "            %%factoryDefinitions%%",
    "        ];",
    "    \x7d",
    "\x7d"
  ]

end Scaffold.Stub

import Scaffold.Proofs.Registry.Anchoring
import Scaffold.Proofs.Registry.Apart

/-!
# Many modules in one file

The routes of any plans are a family, and so are their permissions (`family_routes`,
`family_permissions`): the text by which an entry is recognised ends its name with a quote, so no
other name that begins in the same way is taken for it. So whatever modules are generated in
whatever order, each route, each cascade and each set of permissions stands in the shared files
once (`modules_gather`).
-/
namespace Scaffold

open Text

namespace Plan

/-- The routes of a module: those of its pages and those of its cascades. -/
def routeEntries (plan : Plan) (layout : Layout) : List Registration :=
  plan.resourceRoute layout :: plan.dependencies.map (plan.cascadeRoute layout)

variable {plan : Plan} {layout : Layout} {margin : Text} {dependency : Dependency}

namespace Derived

/-- The name of a cascade is the route of its entity and a plain text with a point between them. -/
theorem exists_routeName (derived : plan.Derived) (member : dependency ∈ plan.dependencies) :
    ∃ segment, IsPlain segment ∧
      dependency.cascade.routeName = plan.names.route ++ '.' :: segment := by
  have between : IsPlain ("-by-" : Text) := by unfold IsPlain; decide
  rw [derived.cascades dependency member]
  exact ⟨_, ((plain_kebabCase _).append between).append (plain_kebabCase _), rfl⟩

/-- The texts of a cascade hold no parentheses. -/
theorem paren_notMem_cascade (derived : plan.Derived) (member : dependency ∈ plan.dependencies) :
    '(' ∉ dependency.cascade.routeName ∧ '(' ∉ dependency.cascade.routePath ∧
      '(' ∉ dependency.cascade.endpoint := by
  have route := derived.plain.names.route.notMem (show isPlain '(' = false by decide)
  have kebab : ∀ name, '(' ∉ kebabCase name := fun name => (plain_kebabCase name).notMem (by decide)
  have upper : ∀ name, '(' ∉ upperCamelCase name :=
    fun name => (plain_upperCamelCase name).notMem (by decide)
  have lower : ∀ name, '(' ∉ lowerCamelCase name :=
    fun name => (plain_lowerCamelCase name).notMem (by decide)
  rw [derived.cascades dependency member]
  unfold Cascade.between
  simp [braced, route, kebab, upper, lower]

/-- What stands in front of the first two parentheses of a route. -/
theorem splitOn_route (margins : ∀ c ∈ margin, c = ' ' ∨ c = '\t') {word : Text}
    (whole : '(' ∉ word) (rest : Text) :
    splitOn '(' (margin ++ (routeMiddleware ++ ("->" ++ (word ++ '(' :: rest)))) =
      (margin ++ "Route::middleware") :: ("['auth', 'verified'])->" ++ word) ::
        splitOn '(' rest := by
  have opening : routeMiddleware ++ ("->" : Text) =
      ("Route::middleware" : Text) ++ '(' :: "['auth', 'verified'])->" := by decide
  have words : '(' ∉ ("Route::middleware" : Text) ∧ '(' ∉ ("['auth', 'verified'])->" : Text) := by
    decide
  have side : '(' ∉ margin := by
    intro inside
    rcases margins _ inside with same | same <;> exact absurd same (by decide)
  have first : '(' ∉ margin ++ ("Route::middleware" : Text) :=
    fun inside => (List.mem_append.mp inside).elim side words.1
  have second : '(' ∉ ("['auth', 'verified'])->" : Text) ++ word :=
    fun inside => (List.mem_append.mp inside).elim words.2 whole
  rw [← List.append_assoc routeMiddleware, opening, List.append_assoc, List.cons_append,
    ← List.append_assoc margin, splitOn_cons first, ← List.append_assoc, splitOn_cons second]

/-- The route of the pages between its parentheses. -/
theorem splitOn_resourceRoute (derived : plan.Derived) (margins : ∀ c ∈ margin, c = ' ' ∨ c = '\t')
    {line : Text} (member : line ∈ (plan.resourceRoute layout).entry.lines) :
    ∃ front last, splitOn '(' (margin ++ line) = (margin ++ "Route::middleware") ::
        "['auth', 'verified'])->resource" :: (quote plan.names.route ++ front) :: last ∧
      (last = [] ∨ ("->except" : Text) <:+ front ∧
        last = [("['show']);" : Text)]) := by
  have route := notMem_quote (by decide) (by decide)
    (derived.plain.names.route.notMem (show isPlain '(' = false by decide))
  have controller := derived.controllerClass (show isPlain '(' = false by decide) (by decide)
  have name : ("->resource(" : Text) = "->" ++ ("resource" ++ ['(']) := by decide
  have exception : ("->except(['show'])" : Text) ++ ";" = "->except" ++ '(' :: "['show']);" := by
    decide
  obtain rfl := List.mem_singleton.mp member
  have word : '(' ∉ ("resource" : Text) := by decide
  simp only [name, List.append_assoc, List.cons_append, List.nil_append,
    splitOn_route margins word]
  split
  · refine ⟨_, [], congrArg (_ :: _ :: ·) (splitOn_of_notMem ?_), .inl rfl⟩
    simp [route, controller]
  · refine ⟨", \\" ++ plan.controllerClass ++ "::class)" ++ "->except", _,
      congrArg (_ :: _ :: ·) ?_, .inr ⟨List.suffix_append _ _, rfl⟩⟩
    rw [exception]
    have whole : '(' ∉ quote plan.names.route ++ (", \\" ++ plan.controllerClass ++ "::class)" ++
        "->except") := by
      simp [route, controller]
    have cut := splitOn_cons whole "['show']);"
    rw [@splitOn_of_notMem _ "['show']);" (by decide)] at cut
    simpa only [List.append_assoc] using cut

/-- The route of a cascade between its parentheses. -/
theorem splitOn_cascadeRoute (derived : plan.Derived) (margins : ∀ c ∈ margin, c = ' ' ∨ c = '\t')
    (member : dependency ∈ plan.dependencies) {line : Text}
    (listed : line ∈ (plan.cascadeRoute layout dependency).entry.lines) :
    ∃ front, splitOn '(' (margin ++ line) = [margin ++ "Route::middleware",
      "['auth', 'verified'])->get", front ++ "])->name",
      quote dependency.cascade.routeName ++ ");"] := by
  obtain ⟨name, path, endpoint⟩ := derived.paren_notMem_cascade member
  have quoted : ∀ {text : Text}, '(' ∉ text → '(' ∉ quote text :=
    fun absent => notMem_quote (by decide) (by decide) absent
  have relative : '(' ∉ relativePath dependency.cascade.routePath :=
    fun inside => path (List.dropWhile_subset _ inside)
  have controller := derived.controllerClass (show isPlain '(' = false by decide) (by decide)
  have word : '(' ∉ ("get" : Text) := by decide
  have get : ("->get(" : Text) = "->" ++ ("get" ++ ['(']) := by decide
  have named : ("])->name(" : Text) = "])->name" ++ ['('] := by decide
  obtain rfl := List.mem_singleton.mp listed
  refine ⟨quote (relativePath dependency.cascade.routePath) ++ ", [\\" ++ plan.controllerClass ++
    "::class, " ++ quote dependency.cascade.endpoint, ?_⟩
  have whole : '(' ∉ quote (relativePath dependency.cascade.routePath) ++ ", [\\" ++
      plan.controllerClass ++ "::class, " ++ quote dependency.cascade.endpoint ++ "])->name" := by
    simp [quoted relative, controller, quoted endpoint]
  have last : '(' ∉ quote dependency.cascade.routeName ++ ");" := by
    simp [quoted name]
  have cut := splitOn_cons whole (quote dependency.cascade.routeName ++ ");")
  rw [splitOn_of_notMem last] at cut
  simp only [get, named, List.append_assoc, List.cons_append, List.nil_append,
    splitOn_route margins word] at cut ⊢
  rw [cut]
  congr 1

/-- What may stand in front of a parenthesis in the routes of the pages. -/
theorem calls_resourceRoute (derived : plan.Derived) (margins : ∀ c ∈ margin, c = ' ' ∨ c = '\t')
    {word right : Text} (first : '(' ∉ word) (second : '(' ∉ right) (short : word.length ≤ 8)
    (inside : ∃ line ∈ (plan.resourceRoute layout).entry.lines,
      word ++ '(' :: right <:+: margin ++ line) :
    word <:+ ("Route::middleware" : Text) ∨ word <:+ ("->except" : Text) ∨
      word <:+ ("['auth', 'verified'])->resource" : Text) ∧
        ∃ front, right <+: quote plan.names.route ++ front := by
  obtain ⟨line, member, inside⟩ := inside
  obtain ⟨before, after, both, ends, begins⟩ := exists_neighbours first second inside
  obtain ⟨front, last, split, shape⟩ := derived.splitOn_resourceRoute margins member
  rw [split, neighbours_cons, neighbours_cons] at both
  rcases both with ⟨rfl, -⟩ | ⟨rfl, rfl⟩ | both
  · exact .inl (suffix_of_append (Nat.le_trans short (by decide)) ends)
  · exact .inr (.inr ⟨ends, front, begins⟩)
  · rcases shape with rfl | ⟨⟨start, rfl⟩, rfl⟩
    · exact absurd both neighbours_singleton
    · rw [neighbours_cons] at both
      rcases both with ⟨rfl, -⟩ | both
      · rw [← List.append_assoc] at ends
        exact .inr (.inl (suffix_of_append (Nat.le_trans short (by decide)) ends))
      · exact absurd both neighbours_singleton

/-- What may stand in front of a parenthesis in the route of a cascade. -/
theorem calls_cascadeRoute (derived : plan.Derived) (margins : ∀ c ∈ margin, c = ' ' ∨ c = '\t')
    (member : dependency ∈ plan.dependencies) {word right : Text} (first : '(' ∉ word)
    (second : '(' ∉ right) (short : word.length ≤ 8)
    (inside : ∃ line ∈ (plan.cascadeRoute layout dependency).entry.lines,
      word ++ '(' :: right <:+: margin ++ line) :
    word <:+ ("Route::middleware" : Text) ∨ word <:+ ("['auth', 'verified'])->get" : Text) ∨
      word <:+ ("])->name" : Text) ∧ right <+: quote dependency.cascade.routeName ++ ");" := by
  obtain ⟨line, listed, inside⟩ := inside
  obtain ⟨before, after, both, ends, begins⟩ := exists_neighbours first second inside
  obtain ⟨front, split⟩ := derived.splitOn_cascadeRoute margins member listed
  rw [split, neighbours_cons, neighbours_cons, neighbours_cons] at both
  rcases both with ⟨rfl, -⟩ | ⟨rfl, -⟩ | ⟨rfl, rfl⟩ | both
  · exact .inl (suffix_of_append (Nat.le_trans short (by decide)) ends)
  · exact .inr (.inl ends)
  · exact .inr (.inr ⟨suffix_of_append (Nat.le_trans short (by decide)) ends, begins⟩)
  · exact absurd both neighbours_singleton

/-- The routes of the pages are a plain entry. -/
theorem plain_resourceRoute (derived : plan.Derived) : (plan.resourceRoute layout).entry.Plain := by
  have route := derived.plain.names.route
  refine ⟨fun c inside => ⟨route.isBlank_eq c inside, ?_⟩, ⟨_, rfl, ?_⟩, fun line member => ?_⟩
  · rintro rfl
    exact route.notMem (by decide) inside
  · exact List.mem_append_right _ List.mem_cons_self
  · obtain rfl := List.mem_singleton.mp member
    exact ⟨'R', _, rfl, by decide, by decide⟩

/-- The route of a cascade is a plain entry. -/
theorem plain_cascadeRoute (derived : plan.Derived) (member : dependency ∈ plan.dependencies) :
    (plan.cascadeRoute layout dependency).entry.Plain := by
  obtain ⟨segment, plain, name⟩ := derived.exists_routeName member
  have parts : ∀ c ∈ dependency.cascade.routeName, isPlain c = true ∨ c = '.' := by
    rw [name]
    intro c inside
    rcases List.mem_append.mp inside with front | behind
    · exact .inl (derived.plain.names.route c front)
    · exact (List.mem_cons.mp behind).symm.imp_left (plain c)
  refine ⟨fun c inside => ⟨?_, ?_⟩, ⟨_, rfl, ?_⟩, fun line listed => ?_⟩
  · rcases parts c inside with even | rfl
    · exact (show IsPlain [c] from fun d only => List.mem_singleton.mp only ▸ even).isBlank_eq c
        List.mem_cons_self
    · decide
  · rintro rfl
    rcases parts _ inside with even | same
    · exact absurd even (by decide)
    · exact absurd same (by decide)
  · exact List.mem_append_left _ (List.mem_append_right _ List.mem_cons_self)
  · obtain rfl := List.mem_singleton.mp listed
    exact ⟨'R', _, rfl, by decide, by decide⟩

/-- The permissions are a plain entry. -/
theorem plain_permissionEntry (derived : plan.Derived) :
    (plan.permissionEntry layout).entry.Plain := by
  have route := derived.plain.names.route
  refine ⟨fun c inside => ⟨route.isBlank_eq c inside, ?_⟩, ⟨_, rfl, ?_⟩, fun line member => ?_⟩
  · rintro rfl
    exact route.notMem (by decide) inside
  · exact List.mem_cons_self
  · obtain ⟨key, -, rfl⟩ := List.mem_map.mp member
    exact ⟨'\'', _, rfl, by decide, by decide⟩

/-- The name of a cascade is no route of an entity. -/
theorem routeName_ne (derived : plan.Derived) (member : dependency ∈ plan.dependencies)
    {other : Plan} (others : other.Derived) :
    dependency.cascade.routeName ≠ other.names.route := by
  obtain ⟨segment, -, name⟩ := derived.exists_routeName member
  intro same
  refine others.plain.names.route.notMem (show isPlain '.' = false by decide) ?_
  rw [← same, name]
  simp

end Derived

variable {plans : List Plan}

/-- A route is that of the pages of a module or that of one of its cascades. -/
theorem mem_routes {registration : Registration} :
    registration ∈ plans.flatMap (·.routeEntries layout) ↔ ∃ plan ∈ plans,
      registration = plan.resourceRoute layout ∨
        ∃ dependency ∈ plan.dependencies, registration = plan.cascadeRoute layout dependency := by
  simp only [List.mem_flatMap, routeEntries, List.mem_cons, List.mem_map, eq_comm]

/-- The text by which the routes of the pages are recognised. -/
theorem resource_presence (plan : Plan) (layout : Layout) :
    (plan.resourceRoute layout).entry.presence.text =
      ("resource" : Text) ++ '(' :: quote plan.names.route := by
  have call : ("resource(" : Text) = "resource" ++ ['('] := by decide
  show ("resource(" : Text) ++ _ = _
  rw [call, List.append_assoc, List.singleton_append]

/-- The text by which the route of a cascade is recognised. -/
theorem cascade_presence (plan : Plan) (layout : Layout) (dependency : Dependency) :
    (plan.cascadeRoute layout dependency).entry.presence.text =
      ("name" : Text) ++ '(' :: (quote dependency.cascade.routeName ++ ")") := by
  have call : ("name(" : Text) = "name" ++ ['('] := by decide
  show ("name(" : Text) ++ _ ++ _ = _
  rw [call]
  simp only [List.append_assoc, List.cons_append, List.nil_append]

/-- **The routes of any modules are a family.** -/
theorem family_routes (derived : ∀ plan ∈ plans, plan.Derived) (layout : Layout) :
    Registration.Family "routes" .routes (plans.flatMap (·.routeEntries layout)) := by
  have paren : ∀ {text : Text}, '(' ∉ text → '(' ∉ quote text :=
    fun absent => notMem_quote (by decide) (by decide) absent
  have word : '(' ∉ ("resource" : Text) ∧ '(' ∉ ("name" : Text) := by decide
  have calls : ¬("resource" : Text) <:+ ("Route::middleware" : Text) ∧
      ¬("resource" : Text) <:+ ("->except" : Text) ∧
      ¬("resource" : Text) <:+ ("['auth', 'verified'])->get" : Text) ∧
      ¬("resource" : Text) <:+ ("])->name" : Text) ∧
      ¬("name" : Text) <:+ ("Route::middleware" : Text) ∧
      ¬("name" : Text) <:+ ("->except" : Text) ∧
      ¬("name" : Text) <:+ ("['auth', 'verified'])->resource" : Text) ∧
      ¬("name" : Text) <:+ ("['auth', 'verified'])->get" : Text) := by decide
  refine Registration.family_of (tidy_of_mem_regions "routes" (by decide)).1
    (by decide) ?_ ?_ ?_ ?_ ?_
  · intro registration member
    obtain ⟨plan, -, rfl | ⟨dependency, -, rfl⟩⟩ := mem_routes.mp member <;> exact ⟨rfl, rfl⟩
  · intro registration member
    obtain ⟨plan, listed, rfl | ⟨dependency, there, rfl⟩⟩ := mem_routes.mp member
    · exact (derived plan listed).lined_resourceRoute layout
    · exact (derived plan listed).lined_cascadeRoute layout there
  · intro registration member
    obtain ⟨plan, listed, rfl | ⟨dependency, there, rfl⟩⟩ := mem_routes.mp member
    · exact ((derived plan listed).sound_resourceRoute layout).presence
    · exact ((derived plan listed).sound_cascadeRoute layout there).presence
  · intro registration member
    obtain ⟨plan, listed, rfl | ⟨dependency, there, rfl⟩⟩ := mem_routes.mp member
    · exact (derived plan listed).plain_resourceRoute
    · exact (derived plan listed).plain_cascadeRoute there
  · intro registration member other second margin margins
    obtain ⟨plan, listed, rfl | ⟨dependency, there, rfl⟩⟩ := mem_routes.mp member <;>
    obtain ⟨module, among, rfl | ⟨cascade, here, rfl⟩⟩ := mem_routes.mp second
    · rw [resource_presence]
      constructor
      · intro inside
        rcases (derived module among).calls_resourceRoute margins word.1
          (paren ((derived plan listed).plain.names.route.notMem (by decide))) (by decide) inside
          with no | no | ⟨-, front, begins⟩
        · exact absurd no calls.1
        · exact absurd no calls.2.1
        · exact eq_of_quote_prefix begins
      · intro same
        obtain ⟨line, own, shows⟩ := module.resourceRoute_shows layout
        rw [resource_presence, ← show plan.names.route = module.names.route from same] at shows
        exact ⟨line, own, shows.trans (List.suffix_append margin line).isInfix⟩
    · rw [resource_presence]
      refine iff_of_false (fun inside => ?_)
        ((derived module among).routeName_ne here (derived plan listed)).symm
      rcases (derived module among).calls_cascadeRoute margins here word.1
        (paren ((derived plan listed).plain.names.route.notMem (by decide))) (by decide) inside
        with no | no | ⟨no, -⟩
      · exact calls.1 no
      · exact calls.2.2.1 no
      · exact calls.2.2.2.1 no
    · rw [cascade_presence]
      have quoted : '(' ∉ quote dependency.cascade.routeName ++ ")" := by
        simp [paren ((derived plan listed).paren_notMem_cascade there).1]
      refine iff_of_false (fun inside => ?_)
        ((derived plan listed).routeName_ne there (derived module among))
      rcases (derived module among).calls_resourceRoute margins word.2 quoted (by decide) inside
        with no | no | ⟨no, -⟩
      · exact calls.2.2.2.2.1 no
      · exact calls.2.2.2.2.2.1 no
      · exact calls.2.2.2.2.2.2.1 no
    · rw [cascade_presence]
      have quoted : '(' ∉ quote dependency.cascade.routeName ++ ")" := by
        simp [paren ((derived plan listed).paren_notMem_cascade there).1]
      constructor
      · intro inside
        rcases (derived module among).calls_cascadeRoute margins here word.2 quoted (by decide)
          inside with no | no | ⟨-, begins⟩
        · exact absurd no calls.2.2.2.2.1
        · exact absurd no calls.2.2.2.2.2.2.2
        · exact eq_of_quote_prefix ((List.prefix_append _ _).trans begins)
      · intro same
        obtain ⟨line, own, shows⟩ := module.cascadeRoute_shows layout cascade
        rw [cascade_presence, ← show dependency.cascade.routeName = cascade.cascade.routeName
          from same] at shows
        exact ⟨line, own, shows.trans (List.suffix_append margin line).isInfix⟩

/-- A permission is told by the route in front of its point. -/
theorem route_of_permission {module : Plan} (derived : plan.Derived) (others : module.Derived)
    {first second : Text} (early : '.' ∉ first) (late : '.' ∉ second)
    (clean : '\\' ∉ first ∧ '\'' ∉ first ∧ '\\' ∉ second ∧ '\'' ∉ second)
    (margins : ∀ c ∈ margin, c = ' ' ∨ c = '\t')
    (inside : quote (plan.names.route ++ '.' :: first) <:+:
      margin ++ (quote (module.names.route ++ '.' :: second) ++ ",")) :
    plan.names.route = module.names.route := by
  have free : ∀ {plan : Plan}, plan.Derived → '.' ∉ plan.names.route ∧ '\\' ∉ plan.names.route ∧
      '\'' ∉ plan.names.route := fun derived =>
    ⟨derived.plain.names.route.notMem (by decide), derived.plain.names.route.notMem (by decide),
      derived.plain.names.route.notMem (by decide)⟩
  obtain ⟨point, slash, mark⟩ := free derived
  obtain ⟨pointless, slashless, markless⟩ := free others
  rw [quote_eq (by simp [slash, clean]) (by simp [mark, clean]),
    quote_eq (by simp [slashless, clean]) (by simp [markless, clean])] at inside
  simp only [List.append_assoc, List.cons_append, List.nil_append] at inside
  rw [← List.cons_append] at inside
  obtain ⟨before, after, both, ends, -⟩ :=
    exists_neighbours (by simp [point]) (by simp [early]) inside
  have side : '.' ∉ margin := by
    intro here
    rcases margins _ here with same | same <;> exact absurd same (by decide)
  have split : margin ++ '\'' :: (module.names.route ++ '.' :: (second ++ '\'' :: ",")) =
      (margin ++ '\'' :: module.names.route) ++ '.' :: (second ++ '\'' :: ",") := by simp
  rw [split, splitOn_cons (by simp [side, pointless]), splitOn_of_notMem (by simp [late]),
    neighbours_cons] at both
  rcases both with ⟨rfl, -⟩ | both
  · exact eq_of_suffix mark markless ends
  · exact absurd both neighbours_singleton

/-- **The permissions of any modules are a family.** -/
theorem family_permissions (derived : ∀ plan ∈ plans, plan.Derived) (layout : Layout) :
    Registration.Family "permissions" .permissions (plans.map (·.permissionEntry layout)) := by
  refine Registration.family_of (tidy_of_mem_regions "permissions" (by decide)).1
    (by decide) ?_ ?_ ?_ ?_ ?_
  · intro registration member
    obtain ⟨plan, -, rfl⟩ := List.mem_map.mp member
    exact ⟨rfl, rfl⟩
  · intro registration member
    obtain ⟨plan, listed, rfl⟩ := List.mem_map.mp member
    exact (derived plan listed).lined_permissionEntry layout
  · intro registration member
    obtain ⟨plan, listed, rfl⟩ := List.mem_map.mp member
    exact ((derived plan listed).sound_permissionEntry layout).presence
  · intro registration member
    obtain ⟨plan, listed, rfl⟩ := List.mem_map.mp member
    exact (derived plan listed).plain_permissionEntry
  · intro registration member other second margin margins
    obtain ⟨plan, listed, rfl⟩ := List.mem_map.mp member
    obtain ⟨module, among, rfl⟩ := List.mem_map.mp second
    have actions : ∀ action ∈ permissionActions, '.' ∉ action ∧ '\\' ∉ action ∧ '\'' ∉ action := by
      decide
    have first := actions "manage" (by decide)
    have text : (plan.permissionEntry layout).entry.presence.text =
        quote (plan.names.route ++ '.' :: "manage") := by
      have word : (".manage" : Text) = '.' :: "manage" := by decide
      show quote (plan.names.route ++ ".manage") = _
      rw [word]
    constructor
    · rintro ⟨line, own, inside⟩
      obtain ⟨key, listedKey, rfl⟩ := List.mem_map.mp own
      obtain ⟨action, known, rfl⟩ := List.mem_map.mp listedKey
      have last := actions action known
      rw [text] at inside
      exact route_of_permission (derived plan listed) (derived module among) first.1 last.1
        ⟨first.2.1, first.2.2, last.2.1, last.2.2⟩ margins inside
    · intro same
      obtain ⟨line, own, shows⟩ := module.permissionEntry_shows layout
      refine ⟨line, own,
        List.IsInfix.trans ?_ (shows.trans (List.suffix_append margin line).isInfix)⟩
      have equal : plan.names.route = module.names.route := same
      show quote (plan.names.route ++ ".manage") <:+: quote (module.names.route ++ ".manage")
      exact equal ▸ List.infix_rfl

end Plan

namespace SharedFile

/-- A text without markers in which no entry is recognised is the ground for these entries. -/
theorem ground_ofText {registrations : List Registration} {text : Text}
    (plain : ∀ registration ∈ registrations, registration.entry.Plain)
    (unmarked : ∀ line ∈ Text.lines text, Marker.isMarker line = false)
    (absent : ∀ registration ∈ registrations,
      registration.entry.presence.foundIn text = false) :
    Ground registrations (ofText text).lines := by
  intro line member
  have single : '\n' ∉ line := feed_notMem_of_mem_lines member
  refine ⟨single, unmarked line member, fun registration listed => ?_⟩
  rw [Entry.recognisedIn_line single, Bool.or_eq_false_iff, beq_eq_false_iff_ne]
  constructor
  · intro same
    have marker := unmarked line member
    rw [Marker.entry, List.append_assoc] at same
    rw [isMarker_of_trim same] at marker
    exact Bool.noConfusion marker
  · obtain ⟨piece, known, -⟩ := (plain registration listed).presence
    have none := absent registration listed
    rw [known] at none ⊢
    rw [Bool.eq_false_iff] at none ⊢
    exact fun found => none
      (occursIn_iff.mpr ((occursIn_iff.mp found).trans (infix_of_mem_lines member)))

/-- Inserting registrations one after the other into a file that is read from a text leaves its
lines and one region at the anchor, with the first entry of each key in the order in which the keys
first occur. -/
structure Gathers (path : FilePath) (text name : Text) (anchor : Anchor)
    (registrations : List Registration) (entries : List Entry) : Prop where
  /-- The entries are among those of the registrations, in their order. -/
  among : entries.Sublist (registrations.map (·.entry))
  /-- There is one of each key, in the order in which the keys first occur. -/
  keys : entries.map (·.key) = firstOccurrences (registrations.map (·.entry.key))
  /-- They stand in one region, and all other lines are those of the text. -/
  region : ∃ site reports, anchor.locate (ofText text).toText = .ok (some site) ∧
    Project.insertAll path (ofText text) registrations = .ok ({ ofText text with
      lines := (Text.lines text).take site.line ++ regionLines name site.margin entries ++
        (Text.lines text).drop site.line }, reports)

/-- The entries of a family gather in a text without markers that holds none of them and in which
the anchor is found. -/
theorem gathers_of_family {path : FilePath} {text name : Text} {anchor : Anchor}
    {registrations : List Registration} (family : Registration.Family name anchor registrations)
    (plain : ∀ registration ∈ registrations, registration.entry.Plain)
    (unmarked : ∀ line ∈ Text.lines text, Marker.isMarker line = false)
    (absent : ∀ registration ∈ registrations,
      registration.entry.presence.foundIn text = false)
    (filled : text ≠ []) (found : ∃ site, anchor.locate (ofText text).toText = .ok (some site)) :
    Gathers path text name anchor registrations (Entry.firsts (registrations.map (·.entry))) := by
  obtain ⟨site, found⟩ := found
  obtain ⟨reports, done⟩ := @Project.insertAll_gathers path (ofText text) name registrations anchor
    family (ground_ofText plain unmarked absent) (lines_ne_nil filled) site found
  refine ⟨Entry.firsts_sublist _, ?_, site, reports, found, done⟩
  rw [Entry.map_key_firsts, List.map_map]
  rfl

end SharedFile

namespace Plan

open SharedFile

variable {plans : List Plan} {layout : Layout}

/-- The entries for the routes of the pages of several modules. -/
def pageEntries (plans : List Plan) (layout : Layout) : List Entry :=
  plans.map fun plan => (plan.resourceRoute layout).entry

/-- The entries for the routes of their cascades. -/
def cascadeEntries (plans : List Plan) (layout : Layout) : List Entry :=
  plans.flatMap fun plan => plan.dependencies.map fun dependency =>
    (plan.cascadeRoute layout dependency).entry

/-- The kind of a route shows in its key: there is a point in that of a cascade alone. -/
theorem key_of_mem_routes (derived : ∀ plan ∈ plans, plan.Derived) {entry : Entry} :
    (entry ∈ pageEntries plans layout → '.' ∉ entry.key) ∧
      (entry ∈ cascadeEntries plans layout → '.' ∈ entry.key) := by
  constructor
  · intro member
    obtain ⟨plan, listed, rfl⟩ := List.mem_map.mp member
    exact (derived plan listed).plain.names.route.notMem (by decide)
  · intro member
    obtain ⟨plan, listed, inside⟩ := List.mem_flatMap.mp member
    obtain ⟨dependency, there, rfl⟩ := List.mem_map.mp inside
    obtain ⟨segment, -, name⟩ := (derived plan listed).exists_routeName there
    show '.' ∈ dependency.cascade.routeName
    rw [name]
    simp

/-- The routes without a point in their key are those of the pages, the others those of the
cascades. -/
theorem filter_routes (derived : ∀ plan ∈ plans, plan.Derived) (layout : Layout) :
    (((plans.flatMap (·.routeEntries layout)).map (·.entry)).filter fun entry =>
        '.' ∉ entry.key) = pageEntries plans layout ∧
      (((plans.flatMap (·.routeEntries layout)).map (·.entry)).filter fun entry =>
        '.' ∈ entry.key) = cascadeEntries plans layout := by
  induction plans with
  | nil => exact ⟨rfl, rfl⟩
  | cons plan rest ih =>
    obtain ⟨pages, cascades⟩ := ih fun other member => derived other (List.mem_cons_of_mem _ member)
    have page : '.' ∉ (plan.resourceRoute layout).entry.key :=
      (@key_of_mem_routes _ layout derived _).1 List.mem_cons_self
    have cascade : ∀ entry ∈ (plan.dependencies.map (plan.cascadeRoute layout)).map (·.entry),
        '.' ∈ entry.key := by
      intro entry member
      rw [List.map_map] at member
      exact (@key_of_mem_routes _ layout derived _).2
        (List.mem_flatMap.mpr ⟨plan, List.mem_cons_self, member⟩)
    rw [List.flatMap_cons, List.map_append, List.filter_append, List.filter_append, pages, cascades,
      routeEntries, List.map_cons]
    constructor
    · rw [List.filter_cons_of_pos (by simpa using page),
        List.filter_eq_nil_iff.mpr fun entry member => by simpa using cascade entry member]
      rfl
    · rw [List.filter_cons_of_neg (by simpa using page), List.filter_eq_self.mpr fun entry member =>
        decide_eq_true (cascade entry member), List.map_map]
      rfl

/-- Of several modules' routes those of one kind are the first ones of their kind. -/
theorem keys_of_kind {entries kept : List Entry} {isKind : Entry → Bool} {kind : Text → Bool}
    (shows : ∀ entry ∈ entries, isKind entry = kind entry.key)
    (filtered : (entries.filter fun entry => kind entry.key) = kept) :
    ((Entry.firsts entries).filter isKind).map (·.key) = firstOccurrences (kept.map (·.key)) := by
  have same : (Entry.firsts entries).filter isKind =
      (Entry.firsts entries).filter fun entry => kind entry.key :=
    List.filter_congr fun entry member => shows entry ((Entry.firsts_sublist entries).subset member)
  rw [same, Entry.filter_firsts (fun entry _ other _ equal => by rw [equal]), filtered,
    Entry.map_key_firsts]

/-- **No module is lost or registered twice.** Generate any modules in any order and as often as one
likes. In a text without markers in which the anchor is found and none of the entries is
recognised, the routes of all of them gather in one region: one line for the pages of each route
and one for each name of a cascade; and so do the permissions: one block of seven lines for each
route. Each is under its own marker, in the order in which the keys first occur, and all other
lines are those of the text. -/
theorem modules_gather (options : List Options) (layout : Layout) (text : Text)
    (unmarked : ∀ line ∈ Text.lines text, Marker.isMarker line = false) :
    let plans := options.map ofOptions
    ((∃ site, Anchor.routes.locate text = .ok (some site)) →
      (∀ registration ∈ plans.flatMap (·.routeEntries layout),
        registration.entry.presence.foundIn text = false) →
      ∃ entries, Gathers layout.routes text "routes" .routes
          (plans.flatMap (·.routeEntries layout)) entries ∧
        (entries.filter (· ∈ pageEntries plans layout)).map (·.key) =
          firstOccurrences (plans.map (·.names.route)) ∧
        (entries.filter (· ∈ cascadeEntries plans layout)).map (·.key) =
          firstOccurrences (plans.flatMap fun plan => plan.dependencies.map (·.cascade.routeName)) ∧
        ∀ entry ∈ entries, entry.lines.length = 1) ∧
    ((∃ site, Anchor.permissions.locate text = .ok (some site)) →
      (∀ registration ∈ plans.map (·.permissionEntry layout),
        registration.entry.presence.foundIn text = false) →
      ∃ entries, Gathers layout.permissionSeeder text "permissions" .permissions
          (plans.map (·.permissionEntry layout)) entries ∧
        entries.map (·.key) = firstOccurrences (plans.map (·.names.route)) ∧
        ∀ entry ∈ entries, entry.lines.length = 7) := by
  intro plans
  have derived : ∀ plan ∈ plans, plan.Derived := by
    intro plan listed
    obtain ⟨option, -, rfl⟩ := List.mem_map.mp listed
    exact derived_ofOptions option
  have filled : ∀ {anchor : Anchor}, anchor.locate [] = .ok none →
      (∃ site, anchor.locate text = .ok (some site)) → text ≠ [] := by
    rintro anchor nowhere ⟨site, found⟩ rfl
    rw [nowhere] at found
    exact absurd found (by simp)
  constructor
  · intro found absent
    have plain : ∀ registration ∈ plans.flatMap (·.routeEntries layout),
        registration.entry.Plain := by
      intro registration member
      obtain ⟨plan, listed, rfl | ⟨dependency, there, rfl⟩⟩ := mem_routes.mp member
      · exact (derived plan listed).plain_resourceRoute
      · exact (derived plan listed).plain_cascadeRoute there
    have gathers := @gathers_of_family layout.routes _ _ _ _ (family_routes derived layout) plain
      unmarked absent (filled Anchor.locate_nil.1 found) (Anchor.routes_saved found)
    have kinds : ∀ entry ∈ (plans.flatMap (·.routeEntries layout)).map (·.entry),
        (entry ∈ pageEntries plans layout ↔ '.' ∉ entry.key) ∧
          (entry ∈ cascadeEntries plans layout ↔ '.' ∈ entry.key) := by
      intro entry member
      obtain ⟨registration, inside, rfl⟩ := List.mem_map.mp member
      obtain ⟨page, cascade⟩ := @key_of_mem_routes _ layout derived registration.entry
      obtain ⟨plan, listed, rfl | ⟨dependency, there, rfl⟩⟩ := mem_routes.mp inside
      · have own : (plan.resourceRoute layout).entry ∈ pageEntries plans layout :=
          List.mem_map.mpr ⟨plan, listed, rfl⟩
        exact ⟨iff_of_true own (page own), iff_of_false (page own ∘ cascade) (page own)⟩
      · have own : (plan.cascadeRoute layout dependency).entry ∈ cascadeEntries plans layout :=
          List.mem_flatMap.mpr ⟨plan, listed, List.mem_map.mpr ⟨dependency, there, rfl⟩⟩
        exact ⟨iff_of_false (fun other => page other (cascade own)) (not_not_intro (cascade own)),
          iff_of_true own (cascade own)⟩
    obtain ⟨pages, cascades⟩ := filter_routes derived layout
    refine ⟨_, gathers, ?_, ?_, fun entry member => ?_⟩
    · rw [@keys_of_kind _ _ _ (fun key => '.' ∉ key)
        (fun entry member => decide_eq_decide.mpr (kinds entry member).1) pages, pageEntries,
        List.map_map]
      rfl
    · rw [@keys_of_kind _ _ _ (fun key => '.' ∈ key)
        (fun entry member => decide_eq_decide.mpr (kinds entry member).2) cascades, cascadeEntries,
        List.map_flatMap]
      simp only [List.map_map]
      rfl
    · obtain ⟨registration, inside, rfl⟩ := List.mem_map.mp (gathers.among.subset member)
      obtain ⟨plan, -, rfl | ⟨dependency, -, rfl⟩⟩ := mem_routes.mp inside <;> rfl
  · intro found absent
    have plain : ∀ registration ∈ plans.map (·.permissionEntry layout),
        registration.entry.Plain := by
      intro registration member
      obtain ⟨plan, listed, rfl⟩ := List.mem_map.mp member
      exact (derived plan listed).plain_permissionEntry
    have gathers := @gathers_of_family layout.permissionSeeder _ _ _ _
      (family_permissions derived layout) plain unmarked absent (filled Anchor.locate_nil.2 found)
      (Anchor.permissions_saved found)
    refine ⟨_, gathers, ?_, fun entry member => ?_⟩
    · rw [gathers.keys, List.map_map]
      rfl
    · obtain ⟨registration, listed, rfl⟩ := List.mem_map.mp (gathers.among.subset member)
      obtain ⟨plan, -, rfl⟩ := List.mem_map.mp listed
      show (List.map _ (plan.permissionKeys)).length = 7
      rw [List.length_map, permissionKeys, List.length_map]
      decide +kernel

/-- Two modules, the first of which is generated once more in the end. -/
def threeTurns : List Options :=
  [{ displayName := "Valve", relationships := "tooth:belongsTo:Tooth, tooth_quiz:belongsTo:Quiz" },
    { displayName := "Quiz" }, { displayName := "Valve" }]

/-- A file with a list of permissions and a further route file. -/
def plainWiring : Text := "<?php\n$permissions = [\n];\nrequire __DIR__ . '/auth.php';\n"

/-- Two modules gather in such a file in three turns. -/
theorem modules_gather_turns :
    (∃ entries, Gathers Layout.standard.routes plainWiring "routes" .routes
        ((threeTurns.map ofOptions).flatMap (·.routeEntries .standard)) entries ∧
      entries.map (·.key) = [("valves" : Text), "valves.quizzes-by-tooth", "quizzes"]) ∧
    ∃ entries, Gathers Layout.standard.permissionSeeder plainWiring "permissions" .permissions
        ((threeTurns.map ofOptions).map (·.permissionEntry .standard)) entries ∧
      entries.map (·.key) = [("valves" : Text), "quizzes"] := by
  obtain ⟨atRoutes, atPermissions, unmarked⟩ :
      Anchor.routes.locate plainWiring = .ok (some ⟨3, []⟩) ∧
      Anchor.permissions.locate plainWiring = .ok (some ⟨2, Anchor.step⟩) ∧
      ∀ line ∈ Text.lines plainWiring, Marker.isMarker line = false := by
    unfold Anchor.routes Anchor.permissions plainWiring
    simp (disch := exact rfl) only [Text.toList_literal, -String.reduceToList]
    decide +kernel
  obtain ⟨routeKeys, permissionKeys, newRoutes, newPermissions⟩ :
      ((threeTurns.map ofOptions).flatMap (·.routeEntries .standard)).map (·.entry.key) =
        [("valves" : Text), "valves.quizzes-by-tooth", "quizzes", "valves"] ∧
      ((threeTurns.map ofOptions).map (·.permissionEntry .standard)).map (·.entry.key) =
        [("valves" : Text), "quizzes", "valves"] ∧
      (∀ registration ∈ (threeTurns.map ofOptions).flatMap (·.routeEntries .standard),
        registration.entry.presence.foundIn plainWiring = false) ∧
      ∀ registration ∈ (threeTurns.map ofOptions).map (·.permissionEntry .standard),
        registration.entry.presence.foundIn plainWiring = false := by
    unfold threeTurns plainWiring
    simp (disch := exact rfl) only [Text.toList_literal, -String.reduceToList]
    decide +kernel
  obtain ⟨routes, permissions⟩ := modules_gather threeTurns .standard plainWiring unmarked
  obtain ⟨lines, gathered, -⟩ := routes ⟨_, atRoutes⟩ newRoutes
  obtain ⟨blocks, collected, -⟩ := permissions ⟨_, atPermissions⟩ newPermissions
  refine ⟨⟨lines, gathered, ?_⟩, ⟨blocks, collected, ?_⟩⟩
  · rw [gathered.keys, routeKeys]
    decide +kernel
  · rw [collected.keys, permissionKeys]
    decide +kernel

end Plan

end Scaffold

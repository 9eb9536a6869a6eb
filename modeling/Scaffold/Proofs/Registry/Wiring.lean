import Scaffold.Proofs.Names
import Scaffold.Proofs.Registry.Reloading

/-!
# What a plan registers

Every entry of a plan is sound (`Plan.Registers.sound`): it is recognised by its own lines wherever
they stand, the text of its presence is one line, and it brings no carriage returns. What that takes
of a plan (`Plan.Wirable`) holds of every plan that is made from options without them
(`Plan.wirable_ofOptions`).
-/
namespace Scaffold

namespace Text

/-- The empty text is one line. -/
@[simp]
theorem isOneLine_nil : IsOneLine [] := ⟨List.not_mem_nil, List.not_mem_nil⟩

/-- A text of two parts is one line if both are. -/
@[simp]
theorem isOneLine_append {first second : Text} :
    IsOneLine (first ++ second) ↔ IsOneLine first ∧ IsOneLine second := by
  simp only [IsOneLine, List.mem_append, not_or]
  exact and_and_and_comm

/-- A character that ends no line may stand in front of a text of one line. -/
@[simp]
theorem isOneLine_cons {c : Char} {text : Text} :
    IsOneLine (c :: text) ↔ (c ≠ '\n' ∧ c ≠ '\x0d') ∧ IsOneLine text := by
  simp only [IsOneLine, List.mem_cons, not_or, ne_comm (a := c), ne_eq]
  exact and_and_and_comm

/-- A plain text is one line. -/
theorem IsPlain.isOneLine {text : Text} (plain : IsPlain text) : IsOneLine text :=
  ⟨plain.notMem (by decide), plain.notMem (by decide)⟩

/-- The literal of a text of one line is one line. -/
theorem IsOneLine.quote {text : Text} (line : IsOneLine text) : IsOneLine (quote text) :=
  ⟨notMem_quote (by decide) (by decide) line.1, notMem_quote (by decide) (by decide) line.2⟩

/-- Whether a text is one line can be computed. -/
instance (text : Text) : Decidable (IsOneLine text) :=
  inferInstanceAs (Decidable ('\n' ∉ text ∧ '\x0d' ∉ text))

/-- A word without identifier characters at its ends is found wherever it occurs. -/
theorem wordOccursIn_of_infix {word content : Text}
    (first : word.head?.any isIdentifierPart = false)
    (last : word.getLast?.any isIdentifierPart = false) (inside : word <:+: content) :
    wordOccursIn word content = true := by
  have free : ∀ before text, standsFree word before text = true := by
    intro before text
    simp [standsFree, freeEnd, first, last]
  by_cases empty : word = []
  · simp [wordOccursIn, empty]
  have general : ∀ (content : Text) (before : Option Char), word <:+: content →
      wordOccursFrom word 0 before content = true := by
    intro content
    induction content with
    | nil => exact fun before inside => absurd (List.infix_nil.mp inside) empty
    | cons c rest ih =>
      intro before inside
      rw [wordOccursFrom]
      split
      · simp [free]
      · rename_i absent
        rcases List.infix_cons_iff.mp inside with here | later
        · exact absurd (List.isPrefixOf_iff_prefix.mpr here) absent
        · exact ih _ later
  simp [wordOccursIn, general content none inside]

end Text

open Text

namespace Entry

/-- A line of an entry is in every file that its lines are in. -/
theorem infix_joined {entry : Entry} {line text : Text} (member : line ∈ entry.lines)
    (filled : text ≠ []) (inside : text <:+: line) {file : SharedFile} {margin : Text}
    (placed : ∀ line ∈ entry.linesAt margin, line ∈ file.lines) : text <:+: file.joined := by
  have some : line.isEmpty = false := by
    rw [List.isEmpty_eq_false_iff]
    rintro rfl
    exact filled (List.infix_nil.mp inside)
  have listed : margin ++ line ∈ entry.linesAt margin :=
    List.mem_map.mpr ⟨line, List.mem_cons_of_mem _ member, by simp [some]⟩
  exact (inside.trans (List.suffix_append margin line).isInfix).trans
    (infix_joinWith ['\n'] (placed _ listed))

/-- An entry is evident if the text by which it is recognised occurs in one of its lines. -/
theorem evident_of_occurs {entry : Entry} {text : Text} (recognised : entry.presence = .occurs text)
    (filled : text ≠ []) (inside : ∃ line ∈ entry.lines, text <:+: line) : entry.Evident := by
  intro file margin _ placed
  obtain ⟨line, member, part⟩ := inside
  have found := occursIn_iff.mpr (infix_joined member filled part placed)
  simp [SharedFile.contains, recognised, Presence.foundIn, found]

/-- An entry is evident if the word by which it is recognised occurs in one of its lines and has no
identifier characters at its ends. -/
theorem evident_of_word {entry : Entry} {text : Text} (recognised : entry.presence = .word text)
    (filled : text ≠ []) (inside : ∃ line ∈ entry.lines, text <:+: line)
    (first : text.head?.any isIdentifierPart = false)
    (last : text.getLast?.any isIdentifierPart = false) : entry.Evident := by
  intro file margin _ placed
  obtain ⟨line, member, part⟩ := inside
  have found := wordOccursIn_of_infix first last (infix_joined member filled part placed)
  simp [SharedFile.contains, recognised, Presence.foundIn, found]

end Entry

/-- A registration whose entry is recognised by its own lines and by a text of one line, and brings
no carriage returns. -/
structure Registration.Sound (registration : Registration) : Prop where
  /-- The markers of its region have no blanks at their ends. -/
  tidy : SharedFile.Tidy registration.region
  /-- Its entry is recognised by its own lines. -/
  evident : registration.entry.Evident
  /-- The text of its presence is one line. -/
  presence : IsOneLine registration.entry.presence.text
  /-- It brings no carriage returns. -/
  legal : registration.Legal (· ≠ '\x0d')

/-- A registration does not bring a character of line endings that its texts do not hold. -/
theorem Registration.legal_of_notMem {registration : Registration} {c : Char}
    (odd : c = '\n' ∨ c = '\x0d') (region : c ∉ registration.region)
    (key : c ∉ registration.entry.key) (lines : ∀ line ∈ registration.entry.lines, c ∉ line) :
    registration.Legal (· ≠ c) := by
  have literal : c ∉ Marker.start ++ ("begin " : Text) ∧ c ∉ Marker.start ++ ("end " : Text) ∧
      c ∉ Marker.start ++ ("entry " : Text) := by
    rcases odd with rfl | rfl <;> decide
  have both : ∀ {first second : Text}, c ∉ first → c ∉ second → c ∉ first ++ second :=
    fun front behind inside => (List.mem_append.mp inside).elim front behind
  have whole : ∀ line ∈ SharedFile.newRegion registration [], c ∉ line := by
    intro line member
    unfold SharedFile.newRegion at member
    rcases List.mem_append.mp member with early | last
    · rcases List.mem_cons.mp early with rfl | inner
      · rw [List.nil_append, Marker.beginning]
        exact both literal.1 region
      · obtain ⟨piece, listed, rfl⟩ := List.mem_map.mp inner
        split
        · simp
        · rw [List.nil_append]
          rcases List.mem_cons.mp listed with rfl | own
          · exact both literal.2.2 key
          · exact lines piece own
    · rw [List.mem_singleton.mp last, List.nil_append, Marker.ending]
      exact both literal.2.1 region
  rintro line member d inside rfl
  exact whole line member inside

/-- A registration of lines is sound if its own lines show its entry. -/
theorem Registration.Lined.sound {registration : Registration} (lined : registration.Lined)
    (tidy : SharedFile.Tidy registration.region) (evident : registration.entry.Evident)
    (presence : IsOneLine registration.entry.presence.text) : registration.Sound :=
  ⟨tidy, evident, presence, fun line member c inside => (lined.legal line member c inside).2⟩

namespace Plan

/-- The names of a plan, of its package and of its cascades are derived ones. -/
structure Derived (plan : Plan) : Prop where
  /-- The names of the entity are plain. -/
  plain : plan.Plain
  /-- So is the namespace of the package. -/
  space : ∀ scope, plan.package = some scope → IsPlain scope.namespaceName
  /-- The cascades are those between their relationships. -/
  cascades : ∀ dependency ∈ plan.dependencies,
    dependency.cascade = Cascade.between dependency.parent dependency.child plan.names.route

/-- The names of a plan that is made from options are derived ones. -/
theorem derived_ofOptions (options : Options) : (ofOptions options).Derived := by
  refine ⟨plain_ofOptions options, fun scope found => ?_, fun dependency member => ?_⟩
  · obtain ⟨name, -, rfl⟩ := Option.map_eq_some_iff.mp found
    exact plain_upperCamelCase _
  · obtain ⟨⟨previous, child⟩, -, inferred⟩ := List.mem_filterMap.mp member
    simp only [Dependency.of?] at inferred
    split at inferred
    · obtain ⟨parent, -, rfl⟩ := Option.map_eq_some_iff.mp inferred
      rfl
    · exact absurd inferred (by simp)

/-- The regions of a plan. -/
def regions : List Text :=
  ["routes", "permissions", "navigation-icons", "navigation", "setup-navigation", "seeders",
    "relations"]

/-- The names of the regions are one line, and their markers have no blanks at their ends. -/
theorem tidy_of_mem_regions :
    ∀ region ∈ regions, SharedFile.Tidy region ∧ IsOneLine region := by
  decide +kernel

/-- A line of the routes of the pages holds the text by which they are recognised. -/
theorem resourceRoute_shows (plan : Plan) (layout : Layout) :
    ∃ line ∈ (plan.resourceRoute layout).entry.lines,
      (plan.resourceRoute layout).entry.presence.text <:+: line := by
  refine ⟨_, List.mem_cons_self, routeMiddleware ++ "->",
    (", \\" : Text) ++ plan.controllerClass ++ "::class)" ++
      (if plan.viewMode = some .page then [] else ("->except(['show'])" : Text)) ++ ";", ?_⟩
  have split : ("->resource(" : Text) = "->" ++ "resource(" := by decide
  rw [split]
  simp only [resourceRoute, Presence.text, List.append_assoc]

/-- So does that of a cascade. -/
theorem cascadeRoute_shows (plan : Plan) (layout : Layout) (dependency : Dependency) :
    ∃ line ∈ (plan.cascadeRoute layout dependency).entry.lines,
      (plan.cascadeRoute layout dependency).entry.presence.text <:+: line := by
  refine ⟨_, List.mem_cons_self, routeMiddleware ++ "->get(" ++
    quote (relativePath dependency.cascade.routePath) ++ ", [\\" ++ plan.controllerClass ++
    "::class, " ++ quote dependency.cascade.endpoint ++ "])->", ";", ?_⟩
  have split : ("])->name(" : Text) = "])->" ++ "name(" := by decide
  have ending : (");" : Text) = ")" ++ ";" := by decide
  rw [split, ending]
  simp only [cascadeRoute, Presence.text, List.append_assoc]

/-- The first permission is one of them. -/
theorem firstPermission_mem (plan : Plan) : plan.firstPermission ∈ plan.permissionKeys :=
  List.mem_map.mpr ⟨"manage", by decide, by simp [firstPermission]⟩

/-- So do the permissions. -/
theorem permissionEntry_shows (plan : Plan) (layout : Layout) :
    ∃ line ∈ (plan.permissionEntry layout).entry.lines,
      (plan.permissionEntry layout).entry.presence.text <:+: line :=
  ⟨quote plan.firstPermission ++ ",", List.mem_map.mpr ⟨_, plan.firstPermission_mem, rfl⟩,
    List.infix_append [] _ _⟩

variable {plan : Plan}

namespace Derived

/-- The namespace of the generated classes holds plain characters and backslashes. -/
theorem namespaceName (derived : plan.Derived) {c : Char} (odd : isPlain c = false)
    (slash : c ≠ '\\') : c ∉ plan.namespaceName := by
  have app : ∀ d ∈ ("App" : Text), isPlain d = true := by decide
  have packages : ∀ d ∈ ("Packages\\" : Text), isPlain d = true ∨ d = '\\' := by decide
  unfold Plan.namespaceName
  intro inside
  cases found : plan.package with
  | none =>
    rw [found] at inside
    exact Bool.false_ne_true (odd.symm.trans (app c inside))
  | some scope =>
    rw [found] at inside
    rcases List.mem_append.mp inside with front | name
    · rcases packages c front with plain | same
      · exact Bool.false_ne_true (odd.symm.trans plain)
      · exact slash same
    · exact Bool.false_ne_true (odd.symm.trans (derived.space scope found c name))

/-- So does the name of the controller with it. -/
theorem controllerClass (derived : plan.Derived) {c : Char} (odd : isPlain c = false)
    (slash : c ≠ '\\') : c ∉ plan.controllerClass := by
  have words : (∀ d ∈ ("\\Http\\Controllers\\" : Text), isPlain d = true ∨ d = '\\') ∧
      ∀ d ∈ ("Controller" : Text), isPlain d = true := by decide
  unfold Plan.controllerClass
  simp only [List.mem_append, not_or]
  refine ⟨⟨⟨derived.namespaceName odd slash, fun inside => ?_⟩,
    derived.plain.names.model.notMem odd⟩, fun inside => ?_⟩
  · rcases words.1 c inside with plain | same
    · exact Bool.false_ne_true (odd.symm.trans plain)
    · exact slash same
  · exact Bool.false_ne_true (odd.symm.trans (words.2 c inside))

variable (layout : Layout)

/-- The routes of the pages are lines. -/
theorem lined_resourceRoute (derived : plan.Derived) : (plan.resourceRoute layout).Lined := by
  have route := derived.plain.names.route.isOneLine
  have exception :
      IsOneLine (if plan.viewMode = some .page then [] else ("->except(['show'])" : Text)) := by
    split <;> decide
  refine ⟨(tidy_of_mem_regions "routes" (by decide)).2, route, fun line member => ?_⟩
  have controller : IsOneLine plan.controllerClass :=
    ⟨derived.controllerClass (by decide) (by decide),
      derived.controllerClass (by decide) (by decide)⟩
  obtain rfl := List.mem_singleton.mp member
  simp only [isOneLine_append, route.quote, controller, exception, and_true]
  decide

/-- The routes of the pages are sound. -/
theorem sound_resourceRoute (derived : plan.Derived) : (plan.resourceRoute layout).Sound := by
  have region := tidy_of_mem_regions "routes" (by decide)
  have shows : (plan.resourceRoute layout).entry.Evident :=
    @Entry.evident_of_occurs _ ("resource(" ++ quote plan.names.route) rfl (by simp)
      (plan.resourceRoute_shows layout)
  exact (derived.lined_resourceRoute layout).sound region.1 shows
    (isOneLine_append.mpr ⟨by decide, derived.plain.names.route.isOneLine.quote⟩)

/-- The texts of a cascade are one line. -/
theorem cascade (derived : plan.Derived) {dependency : Dependency}
    (member : dependency ∈ plan.dependencies) : IsOneLine dependency.cascade.routeName ∧
      IsOneLine dependency.cascade.routePath ∧ IsOneLine dependency.cascade.endpoint := by
  have route := derived.plain.names.route.isOneLine
  have kebab : ∀ name, IsOneLine (kebabCase name) := fun name => (plain_kebabCase name).isOneLine
  have upper : ∀ name, IsOneLine (upperCamelCase name) :=
    fun name => (plain_upperCamelCase name).isOneLine
  have lower : ∀ name, IsOneLine (lowerCamelCase name) :=
    fun name => (plain_lowerCamelCase name).isOneLine
  rw [derived.cascades dependency member]
  unfold Cascade.between
  simp [braced, route, kebab, upper, lower]

/-- The route of a cascade is a line. -/
theorem lined_cascadeRoute (derived : plan.Derived) {dependency : Dependency}
    (member : dependency ∈ plan.dependencies) : (plan.cascadeRoute layout dependency).Lined := by
  obtain ⟨name, path, endpoint⟩ := derived.cascade member
  have relative : IsOneLine (relativePath dependency.cascade.routePath) :=
    ⟨fun inside => path.1 (List.dropWhile_subset _ inside),
      fun inside => path.2 (List.dropWhile_subset _ inside)⟩
  refine ⟨(tidy_of_mem_regions "routes" (by decide)).2, name, fun line listed => ?_⟩
  have controller : IsOneLine plan.controllerClass :=
    ⟨derived.controllerClass (by decide) (by decide),
      derived.controllerClass (by decide) (by decide)⟩
  obtain rfl := List.mem_singleton.mp listed
  simp only [isOneLine_append, relative.quote, controller, endpoint.quote,
    name.quote, and_true]
  decide

/-- The route of a cascade is sound. -/
theorem sound_cascadeRoute (derived : plan.Derived) {dependency : Dependency}
    (member : dependency ∈ plan.dependencies) : (plan.cascadeRoute layout dependency).Sound := by
  have region := tidy_of_mem_regions "routes" (by decide)
  have shows : (plan.cascadeRoute layout dependency).entry.Evident :=
    @Entry.evident_of_occurs _ ("name(" ++ quote dependency.cascade.routeName ++ ")") rfl (by simp)
      (plan.cascadeRoute_shows layout dependency)
  refine (derived.lined_cascadeRoute layout member).sound region.1 shows ?_
  show IsOneLine (("name(" : Text) ++ quote dependency.cascade.routeName ++ ")")
  simp only [isOneLine_append, (derived.cascade member).1.quote, and_true]
  decide

/-- The keys of the permissions are one line. -/
theorem permissionKeys (derived : plan.Derived) :
    ∀ key ∈ plan.permissionKeys, IsOneLine key := by
  have route := derived.plain.names.route.isOneLine
  intro key member
  obtain ⟨action, listed, rfl⟩ := List.mem_map.mp member
  have word : ∀ action ∈ permissionActions, IsOneLine action := by decide
  simp [route, word action listed]

/-- The permissions are lines. -/
theorem lined_permissionEntry (derived : plan.Derived) :
    (plan.permissionEntry layout).Lined := by
  refine ⟨(tidy_of_mem_regions "permissions" (by decide)).2,
    derived.plain.names.route.isOneLine, fun line member => ?_⟩
  obtain ⟨key, listed, rfl⟩ := List.mem_map.mp member
  exact isOneLine_append.mpr ⟨(derived.permissionKeys key listed).quote, by decide⟩

/-- The permissions are sound. -/
theorem sound_permissionEntry (derived : plan.Derived) : (plan.permissionEntry layout).Sound := by
  have region := tidy_of_mem_regions "permissions" (by decide)
  have shows : (plan.permissionEntry layout).entry.Evident :=
    @Entry.evident_of_occurs _ (quote plan.firstPermission) rfl (by simp [quote])
      (plan.permissionEntry_shows layout)
  exact (derived.lined_permissionEntry layout).sound region.1 shows
    (derived.permissionKeys _ plan.firstPermission_mem).quote

end Derived

end Plan

end Scaffold

import Scaffold.Proofs.Project.Preservation
import Scaffold.Proofs.Registry.Wiring
import Scaffold.Proofs.Schema.Reading
import Scaffold.Proofs.Text.Atom

/-!
# The entries of a plan are sound

Every entry of a plan is sound (`Plan.Registers.sound`): it is recognised by its own lines wherever
they stand, the text of its presence is one line, and it brings no carriage returns. What that takes
of a plan (`Plan.Wirable`) holds of every plan whose relationships are written without carriage
returns and whose icon is one line (`Plan.wirable_ofOptions`).
-/
namespace Scaffold

open Text

namespace Plan

/-- What stands in front of the icon in the item of a menu. -/
def menuFront (plan : Plan) : Text :=
  '\x7b' :: ' ' :: commaList ["title: " ++ quote plan.names.labelPlural,
    "href: " ++ quote plan.listAddress, "icon: "]

/-- The item of a menu is one line, with the icon at its end. -/
theorem lines_menuEntry (plan : Plan) (layout : Layout) : (plan.menuEntry layout).entry.lines =
    [plan.menuFront ++ plan.menuIcon ++ ' ' :: '\x7d' :: ","] := by
  simp only [menuEntry, menuFront, menuMembers, Code.record, commaList, joinWith, braced,
    List.cons_append, List.nil_append, List.append_assoc]

/-- It holds the address by which it is recognised. -/
theorem menuEntry_shows (plan : Plan) (layout : Layout) :
    ∃ line ∈ (plan.menuEntry layout).entry.lines,
      (plan.menuEntry layout).entry.presence.text <:+: line := by
  have member : "href: " ++ quote plan.listAddress ∈ plan.menuMembers :=
    List.mem_cons_of_mem _ List.mem_cons_self
  have inside : quote plan.listAddress <:+: commaList plan.menuMembers :=
    (List.suffix_append _ _).isInfix.trans (infix_joinWith ", " member)
  have comma : ("," : Text) = [','] := by decide
  refine ⟨_, List.mem_cons_self, inside.trans ⟨['\x7b', ' '], [' ', '\x7d', ','], ?_⟩⟩
  rw [comma]
  simp only [Code.record, braced, List.cons_append, List.nil_append, List.append_assoc]

/-- The item of a menu belongs to one of two regions. -/
theorem region_menuEntry (plan : Plan) (layout : Layout) :
    (plan.menuEntry layout).region ∈ (["navigation", "setup-navigation"] : List Text) := by
  unfold menuEntry
  simp only
  split
  · exact List.mem_cons_of_mem _ List.mem_cons_self
  · exact List.mem_cons_self

/-- The heading of an accessor holds the text by which it is recognised. -/
theorem accessor_shows (plan : Plan) (relationship : Relationship) :
    ("function " ++ plan.accessorMethod relationship ++ "(" : Text) <:+:
      ("public function " ++ plan.accessorMethod relationship ++
        "(): \\Illuminate\\Database\\Eloquent\\Relations\\HasMany" : Text) := by
  refine ⟨"public ", "): \\Illuminate\\Database\\Eloquent\\Relations\\HasMany", ?_⟩
  have front : ("public function " : Text) = "public " ++ "function " := by decide
  have behind : ("(): \\Illuminate\\Database\\Eloquent\\Relations\\HasMany" : Text) =
      "(" ++ "): \\Illuminate\\Database\\Eloquent\\Relations\\HasMany" := by decide
  rw [front, behind]
  simp only [List.append_assoc]

/-- The region of the item is tidy, and its name is one line. -/
theorem tidy_menuEntry (plan : Plan) (layout : Layout) :
    SharedFile.Tidy (plan.menuEntry layout).region ∧
      IsOneLine (plan.menuEntry layout).region := by
  have known : (["navigation", "setup-navigation"] : List Text) ⊆ regions := by decide
  exact tidy_of_mem_regions _ (known (plan.region_menuEntry layout))

variable {plan : Plan}

/-- What the entries of a plan take to be sound. -/
structure Wirable (plan : Plan) : Prop extends Derived plan where
  /-- The icon is more than blanks, with none at its ends. -/
  icon : Tight plan.menuIcon
  /-- It is one line. -/
  iconLine : IsOneLine plan.menuIcon
  /-- The keys of the relationships hold no carriage returns. -/
  keys : ∀ relationship ∈ plan.relationships, '\x0d' ∉ relationship.foreignKey

/-- The import of an icon of one line is a line. -/
theorem lined_iconEntry (layout : Layout) (single : IsOneLine plan.menuIcon) :
    (plan.iconEntry layout).Lined := by
  refine ⟨(tidy_of_mem_regions "navigation-icons" (by decide)).2, single, fun line member => ?_⟩
  obtain rfl := List.mem_singleton.mp member
  simp only [Code.record, commaList, joinWith, braced, isOneLine_append, isOneLine_cons, single]
  decide

namespace Derived

variable (layout : Layout)

/-- The model with its namespace holds plain characters and backslashes. -/
theorem modelClass (derived : plan.Derived) {c : Char} (odd : isPlain c = false)
    (slash : c ≠ '\\') : c ∉ plan.modelClass := by
  have words : ∀ d ∈ ("\\Models\\" : Text), isPlain d = true ∨ d = '\\' := by decide
  unfold Plan.modelClass
  simp only [List.mem_append, not_or]
  refine ⟨⟨derived.namespaceName odd slash, fun inside => ?_⟩,
    derived.plain.names.model.notMem odd⟩
  rcases words c inside with plain | same
  · exact Bool.false_ne_true (odd.symm.trans plain)
  · exact slash same

/-- What stands in front of the icon holds plain characters and a few marks. -/
theorem menuFront (derived : plan.Derived) {c : Char} (odd : isPlain c = false)
    (other : c ∉ ("\x7b\\'/,: " : Text)) : c ∉ plan.menuFront := by
  have words : ∀ word ∈ (["title: ", "href: ", "icon: ", ", "] : List Text), ∀ d ∈ word,
      isPlain d = true ∨ d ∈ ("\x7b\\'/,: " : Text) := by decide
  have literal : ∀ word ∈ (["title: ", "href: ", "icon: ", ", "] : List Text), c ∉ word :=
    fun word member inside => (words word member c inside).elim
      (fun plain => Bool.false_ne_true (odd.symm.trans plain)) other
  simp only [List.forall_mem_cons] at literal
  have apart : ∀ d ∈ ("\x7b\\'/,: " : Text), c ≠ d := by
    rintro d inside rfl
    exact other inside
  have slash := apart '\\' (by decide)
  have mark := apart '\'' (by decide)
  have label : c ∉ plan.names.labelPlural := fun inside =>
    (derived.plain.names.labelPlural c inside).elim
      (fun plain => Bool.false_ne_true (odd.symm.trans plain)) (apart ' ' (by decide))
  have address : c ∉ plan.listAddress := fun inside =>
    (List.mem_cons.mp inside).elim (apart '/' (by decide)) (derived.plain.names.route.notMem odd)
  have parts : ∀ part ∈ ["title: " ++ quote plan.names.labelPlural,
      "href: " ++ quote plan.listAddress, "icon: "], c ∉ part := by
    simp only [List.forall_mem_cons, List.mem_append, not_or]
    exact ⟨⟨literal.1, notMem_quote slash mark label⟩, ⟨literal.2.1,
      notMem_quote slash mark address⟩, literal.2.2.1, by simp⟩
  intro inside
  rcases List.mem_cons.mp inside with same | inside
  · exact apart '\x7b' (by decide) same
  · rcases List.mem_cons.mp inside with same | inside
    · exact apart ' ' (by decide) same
    · rcases mem_joinWith inside with between | ⟨part, member, there⟩
      · exact literal.2.2.2.1 between
      · exact parts part member there

/-- The making of records is a line. -/
theorem lined_seederEntry (derived : plan.Derived) : (plan.seederEntry layout).Lined := by
  refine ⟨(tidy_of_mem_regions "seeders" (by decide)).2,
    derived.plain.names.model.isOneLine, fun line member => ?_⟩
  have model : IsOneLine plan.modelClass :=
    ⟨derived.modelClass (by decide) (by decide), derived.modelClass (by decide) (by decide)⟩
  obtain rfl := List.mem_singleton.mp member
  simp only [isOneLine_append, isOneLine_cons, model]
  decide

/-- The line of the making of records holds the word by which it is recognised. -/
theorem seederEntry_shows (plan : Plan) : ∃ line ∈ (plan.seederEntry layout).entry.lines,
    (plan.seederEntry layout).entry.presence.text <:+: line := by
  refine ⟨_, List.mem_cons_self, '\\' :: (plan.namespaceName ++ ("\\Models\\" : Text)),
    (")->count(10)->create();" : Text), ?_⟩
  have split : ("::factory()->count(10)->create();" : Text) =
      "::factory(" ++ ")->count(10)->create();" := by decide
  rw [split]
  simp only [seederEntry, Presence.text, Plan.modelClass, List.append_assoc, List.cons_append]

/-- The making of records is sound: its marker shows it, or its line if there is no name. -/
theorem sound_seederEntry (derived : plan.Derived) : (plan.seederEntry layout).Sound := by
  have region := tidy_of_mem_regions "seeders" (by decide)
  have model := derived.plain.names.model
  have presence : IsOneLine (plan.seederEntry layout).entry.presence.text :=
    isOneLine_append.mpr ⟨model.isOneLine, by decide⟩
  have lined := derived.lined_seederEntry layout
  by_cases named : plan.names.model = []
  · have free : ∀ word : Text, word = ("::factory(" : Text) →
        word.head?.any isIdentifierPart = false ∧ word.getLast?.any isIdentifierPart = false := by
      rintro _ rfl
      decide
    obtain ⟨first, last⟩ := free (plan.names.model ++ ("::factory(" : Text)) (by rw [named]; rfl)
    have shows : (plan.seederEntry layout).entry.Evident :=
      @Entry.evident_of_word _ (plan.names.model ++ "::factory(") rfl (by simp)
        (seederEntry_shows layout plan) first last
    exact lined.sound region.1 shows presence
  · have tight : ∀ c, plan.names.model.getLast? = some c → isBlank c = false :=
      fun c last => model.isBlank_eq c (List.mem_of_getLast? last)
    have shows : (plan.seederEntry layout).entry.Evident :=
      @Entry.Proper.evident _ ⟨named, tight, model.isOneLine, presence⟩
    exact lined.sound region.1 shows presence

/-- The text by which the item in a menu is recognised is one line. -/
theorem presence_menuEntry (derived : plan.Derived) :
    IsOneLine (plan.menuEntry layout).entry.presence.text := by
  have address : IsOneLine plan.listAddress :=
    isOneLine_cons.mpr ⟨by decide, derived.plain.names.route.isOneLine⟩
  exact address.quote

/-- The item in a menu is a line. -/
theorem lined_menuEntry (derived : plan.Derived) (single : IsOneLine plan.menuIcon) :
    (plan.menuEntry layout).Lined := by
  have front : IsOneLine plan.menuFront :=
    ⟨derived.menuFront (by decide) (by decide), derived.menuFront (by decide) (by decide)⟩
  refine ⟨(plan.tidy_menuEntry layout).2, ?_, fun line member => ?_⟩
  · exact isOneLine_cons.mpr ⟨by decide, derived.plain.names.route.isOneLine⟩
  · rw [lines_menuEntry, List.mem_singleton] at member
    rw [member]
    simp only [isOneLine_append, front, single]
    decide

/-- The name of an accessor is plain. -/
theorem plain_accessorMethod (derived : plan.Derived) (relationship : Relationship) :
    IsPlain (plan.accessorMethod relationship) := by
  unfold Plan.accessorMethod
  split
  · exact (plain_lowerCamelCase _).append (plain_upperCamelCase _)
  · exact derived.plain.names.records

/-- The text by which an accessor is recognised is one line. -/
theorem presence_accessor (derived : plan.Derived) (relationship : Relationship) :
    IsOneLine (plan.accessor relationship).entry.presence.text := by
  have method := derived.plain_accessorMethod relationship
  show IsOneLine ("function " ++ plan.accessorMethod relationship ++ "(" : Text)
  simp only [isOneLine_append, method.isOneLine]
  decide

/-- An accessor is sound if the key of its relationship holds no carriage returns. -/
theorem sound_accessor (derived : plan.Derived) {relationship : Relationship}
    (clean : '\x0d' ∉ relationship.foreignKey) (file : FilePath) :
    ((plan.accessor relationship).registration file).Sound := by
  have region := tidy_of_mem_regions "relations" (by decide)
  have method := derived.plain_accessorMethod relationship
  have whole : '\x0d' ∉ plan.accessorMethod relationship := method.notMem (by decide)
  refine ⟨region.1, ?_, ?_, ?_⟩
  · exact @Entry.evident_of_occurs (plan.accessor relationship).entry
      ("function " ++ plan.accessorMethod relationship ++ "(") rfl (by simp)
      ⟨_, List.mem_cons_self, plan.accessor_shows relationship⟩
  · exact derived.presence_accessor relationship
  · have model : '\x0d' ∉ plan.modelClass := derived.modelClass (by decide) (by decide)
    have key : '\x0d' ∉ quote relationship.foreignKey :=
      notMem_quote (by decide) (by decide) clean
    refine Registration.legal_of_notMem (.inr rfl) region.2.2 ?_ fun line member => ?_
    · show '\x0d' ∉ plan.names.model ++ '.' :: plan.accessorMethod relationship
      have name : '\x0d' ∉ plan.names.model := derived.plain.names.model.notMem (by decide)
      simp [name, whole]
    · have literal : '\x0d' ∉ ("public function " : Text) ∧
          '\x0d' ∉ ("(): \\Illuminate\\Database\\Eloquent\\Relations\\HasMany" : Text) ∧
          '\x0d' ∉ Code.step ∧ '\x0d' ∉ ("return $this->hasMany(\\" : Text) ∧
          '\x0d' ∉ ("::class, " : Text) ∧ '\x0d' ∉ (");" : Text) := by decide
      have lines : line = "public function " ++ plan.accessorMethod relationship ++
            "(): \\Illuminate\\Database\\Eloquent\\Relations\\HasMany" ∨ line = ['\x7b'] ∨
          line = Code.step ++ ("return $this->hasMany(\\" ++ plan.modelClass ++ "::class, " ++
            quote relationship.foreignKey ++ ");") ∨ line = ['\x7d'] := by
        simpa [Plan.accessor, ReverseAccessor.registration, Code.body, Code.block, Code.deeper]
          using member
      rcases lines with rfl | rfl | rfl | rfl
      · simp [whole]
      · decide
      · simp [literal, model, key]
      · decide

end Derived

namespace Wirable

variable (layout : Layout)

/-- The import of the icon is sound: its marker shows it. -/
theorem sound_iconEntry (wirable : plan.Wirable) : (plan.iconEntry layout).Sound := by
  have region := tidy_of_mem_regions "navigation-icons" (by decide)
  have presence : IsOneLine (plan.iconEntry layout).entry.presence.text := wirable.iconLine
  refine (lined_iconEntry layout wirable.iconLine).sound region.1 (Entry.Proper.evident
    ⟨wirable.icon.ne_nil, fun c last => ?_, wirable.iconLine, presence⟩) presence
  obtain ⟨d, own, solid⟩ := wirable.icon.last
  obtain rfl : d = c := Option.some.inj (own.symm.trans last)
  exact solid

/-- The item in a menu is sound. -/
theorem sound_menuEntry (wirable : plan.Wirable) : (plan.menuEntry layout).Sound := by
  have shows : (plan.menuEntry layout).entry.Evident :=
    @Entry.evident_of_occurs _ (quote plan.listAddress) rfl (by simp [quote])
      (plan.menuEntry_shows layout)
  exact (wirable.lined_menuEntry layout wirable.iconLine).sound (plan.tidy_menuEntry layout).1 shows
    (wirable.presence_menuEntry layout)

end Wirable

/-- **Every entry of a plan is sound.** -/
theorem Registers.sound (wirable : plan.Wirable) {layout : Layout} {registration : Registration}
    (made : plan.Registers layout registration) : registration.Sound := by
  have derived := wirable.toDerived
  rcases made with shared | ⟨accessor, listed, candidate, -, rfl⟩
  · simp only [sharedEntries, List.cons_append, List.mem_cons, List.mem_append, List.mem_map,
      List.not_mem_nil, or_false] at shared
    rcases shared with rfl | ⟨dependency, listed, rfl⟩ | rfl | rfl | rfl | rfl
    · exact derived.sound_resourceRoute layout
    · exact derived.sound_cascadeRoute layout listed
    · exact derived.sound_permissionEntry layout
    · exact wirable.sound_iconEntry layout
    · exact wirable.sound_menuEntry layout
    · exact derived.sound_seederEntry layout
  · obtain ⟨relationship, member, rfl⟩ := List.mem_map.mp listed
    exact derived.sound_accessor (wirable.keys relationship (List.mem_filter.mp member).1) candidate

/-- The icon of a plan that is made from options is more than blanks. -/
theorem tight_menuIcon (options : Options) : Tight (ofOptions options).menuIcon := by
  have defaults : Tight defaultIcon ∧ Tight defaultSetupIcon := by
    constructor <;> exact tight_of_trim (by decide) (by decide)
  have chosen : ∀ {written : Option Text} {usual : Text}, Tight usual →
      Tight ((written.bind nonBlank?).getD usual) := by
    intro written usual tight
    cases found : written.bind nonBlank? with
    | none => exact tight
    | some icon =>
      obtain ⟨text, -, own⟩ := Option.bind_eq_some_iff.mp found
      exact tight_of_nonBlank? own
  show Tight ((options.systemSetup.map fun icon => (nonBlank? icon).getD defaultSetupIcon).getD
    ((options.icon.bind nonBlank?).getD defaultIcon))
  cases options.systemSetup with
  | none => exact chosen defaults.1
  | some icon => exact @chosen (some icon) _ defaults.2

/-- **The entries of a plan are sound** if its relationships are written without carriage returns
and its icon is one line. -/
theorem wirable_ofOptions {options : Options} (clean : '\x0d' ∉ options.relationships)
    (single : IsOneLine (ofOptions options).menuIcon) : (ofOptions options).Wirable := by
  refine ⟨derived_ofOptions options, tight_menuIcon options, single, fun relationship member => ?_⟩
  intro inside
  rcases Schema.mem_foreignKey_readRelationships member inside with plain | ⟨there, -⟩
  · exact absurd plain (by decide)
  · exact clean there

end Plan

end Scaffold

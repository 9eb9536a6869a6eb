import Scaffold.Backend.Request
import Scaffold.Plan.Build
import Scaffold.Proofs.Schema.RuleLists

/-!
# Rules in requests

A list of rules behind the type of a field is the rule of the field in the plan, and from there it
goes into both requests: into the one for a new record as it is, and into the one for a changed
record segment by segment if one of them asks for a unique value, which then leaves the changed
record out. This holds for the lists that neither hide rules from the reader nor name records, and
whose parameters do not end with blanks (`Plan.rulesIntact_iff`).
-/
namespace Scaffold

open Text

namespace Schema.Segment

variable {segment : Segment}

/-- The segment asks for a unique value. -/
def isUnique : Segment → Bool
  | parameterised name _ => name == uniqueRule
  | _ => false

/-- What a segment is in a request that changes a record, for the key that it validates. -/
def updateRule (key : Text) : Segment → UpdateRule
  | parameterised name parameter =>
    if name = uniqueRule then .uniqueIn parameter key
    else .written (text (parameterised name parameter))
  | segment => .written segment.text

/-- A segment is taken for one that asks for a unique value exactly if it is one. -/
theorem IsListed.uniqueMark_prefix_iff (listed : segment.IsListed) :
    UpdateRule.uniqueMark <+: segment.text ↔ segment.isUnique = true := by
  have spelled : UpdateRule.uniqueMark = uniqueRule ++ [':'] := by decide
  have whole : ':' ∉ uniqueRule := by decide
  rw [spelled]
  constructor
  · rintro ⟨rest, same⟩
    rw [List.append_assoc, List.singleton_append] at same
    rcases listed.colon with absent | ⟨name, parameter, rfl⟩
    · exact absurd (by rw [← same]; simp) absent
    · have first := splitFirst?_append whole rest
      have own := splitFirst?_append ((isAtom_name listed.1).free ':' (by decide)) parameter
      rw [same, text, own, Option.some.injEq, Prod.mk.injEq] at first
      exact beq_iff_eq.mpr first.1
  · intro unique
    cases segment with
    | flag mark => exact absurd unique Bool.false_ne_true
    | rule name => exact absurd unique Bool.false_ne_true
    | parameterised name parameter =>
      rw [beq_iff_eq.mp unique, text]
      exact ⟨parameter, by simp⟩

/-- A segment of a list is read as what it is in a request that changes a record. -/
theorem IsKept.ofSegment_text (kept : segment.IsKept) (key : Text) :
    UpdateRule.ofSegment key segment.text = segment.updateRule key := by
  unfold UpdateRule.ofSegment
  rw [kept.trimmed]
  by_cases unique : segment.isUnique = true
  · cases segment with
    | flag mark => exact nomatch unique
    | rule name => exact nomatch unique
    | parameterised name parameter =>
      obtain ⟨-, free, -⟩ := kept.listed
      have spelled : text (.parameterised uniqueRule parameter) =
          UpdateRule.uniqueMark ++ parameter := rfl
      obtain rfl := beq_iff_eq.mp unique
      rw [spelled, afterStart?_append]
      simp only [splitFirst?_of_notMem (free ',' (by decide)), updateRule, ↓reduceIte]
  · have none : afterStart? segment.text UpdateRule.uniqueMark = none := by
      cases found : afterStart? segment.text UpdateRule.uniqueMark with
      | none => rfl
      | some rest =>
        have start : UpdateRule.uniqueMark <+: segment.text :=
          ⟨rest, (eq_append_of_afterStart? found).symm⟩
        exact absurd (kept.listed.uniqueMark_prefix_iff.mp start) unique
    rw [none]
    cases segment with
    | flag mark => rfl
    | rule name => rfl
    | parameterised name parameter =>
      have other : name ≠ uniqueRule := fun same => unique (beq_iff_eq.mpr same)
      simp only [updateRule, other, ↓reduceIte]

end Schema.Segment

namespace Plan

/-- A list of rules is the rule of a field and reaches both requests: the one for a new record as it
is, and the one for a changed record with one element for each rule, if one of them asks for a
unique value. -/
structure RulesIntact (plan : Plan) (field : Field) (rules : List Schema.Segment) : Prop where
  /-- The field has no other rule. -/
  own : fieldRules field = [⟨field.name, Schema.ruleList rules⟩]
  /-- It is a rule of the plan. -/
  planned : ⟨field.name, Schema.ruleList rules⟩ ∈ plan.rules
  /-- The request for a new record has the list as it is. -/
  stored : quote field.name ++ " => " ++ quote (Schema.ruleList rules) ++ "," ∈ plan.storeRuleLines
  /-- The request for a changed record has the rules one by one. -/
  updated : quote field.name ++ " => " ++
    (if rules.any Schema.Segment.isUnique then
      Code.list (rules.map fun rule => (rule.updateRule field.name).code plan.names.record)
    else quote (Schema.ruleList rules)) ++ "," ∈ plan.updateRuleLines

variable {plan : Plan} {field : Field} {rules : List Schema.Segment}

/-- A list of rules that is the validation of a field is its rule. -/
theorem fieldRules_of_validation (kept : ∀ rule ∈ rules, rule.IsKept) (some : rules ≠ [])
    (written : field.validation = Option.some (Schema.ruleList rules)) :
    fieldRules field = [⟨field.name, Schema.ruleList rules⟩] := by
  have visible := (Schema.tight_ruleList kept some).isBlankText_eq
  unfold fieldRules
  rw [written]
  simp only [visible, Bool.false_eq_true, ↓reduceIte]

/-- A list of rules that is the validation of a field reaches both requests. -/
theorem rulesIntact_of_validation (kept : ∀ rule ∈ rules, rule.IsKept) (some : rules ≠ [])
    (derived : ∀ rule ∈ fieldRules field, rule ∈ plan.rules)
    (written : field.validation = Option.some (Schema.ruleList rules)) :
    RulesIntact plan field rules := by
  have pieces := Schema.splitOn_ruleList (fun rule inside => (kept rule inside).listed) some
  have own := fieldRules_of_validation kept some written
  have planned : ⟨field.name, Schema.ruleList rules⟩ ∈ plan.rules :=
    derived _ (by rw [own]; exact List.mem_singleton_self _)
  have asks : UpdateRule.asksUnique (Schema.ruleList rules) = rules.any Schema.Segment.isUnique := by
    rw [UpdateRule.asksUnique, UpdateRule.segments, pieces, List.any_map, Bool.eq_iff_iff,
      List.any_eq_true, List.any_eq_true]
    refine exists_congr fun rule => and_congr_right fun member => ?_
    rw [Function.comp_apply, (kept rule member).trimmed, startsWith,
      List.isPrefixOf_iff_prefix, (kept rule member).listed.uniqueMark_prefix_iff]
  have read : ValidationRule.forUpdate ⟨field.name, Schema.ruleList rules⟩ =
      rules.map (Schema.Segment.updateRule field.name) := by
    rw [ValidationRule.forUpdate, UpdateRule.segments, pieces, List.map_map]
    exact List.map_congr_left fun rule member => (kept rule member).ofSegment_text field.name
  refine ⟨own, planned, List.mem_map.mpr ⟨_, planned, rfl⟩, List.mem_map.mpr ⟨_, planned, ?_⟩⟩
  rw [ValidationRule.updateLine, asks, read, List.map_map]
  rfl

/-- A plan has the rules of each of its fields. -/
theorem mem_rules_of_mem_fieldRules {options : Options} (member : field ∈ (ofOptions options).fields)
    {rule : ValidationRule} (own : rule ∈ fieldRules field) : rule ∈ (ofOptions options).rules :=
  List.mem_append_left _ (List.mem_flatMap.mpr ⟨field, member, own⟩)

/-- **A list of rules reaches both requests exactly if it is read as a whole.** A field that has no
options is declared with a list of rules and flags. Then the rules, without the flags, are the rule
of the field and reach both requests, unless segments follow the last rule with a parameter and that
rule asks for a unique value, its parameter begins as a reference behind blanks, or a parameter ends
with blanks. -/
theorem rulesIntact_iff {options : Options} {name declared : Text} {list : List Schema.Segment}
    (nameless : ':' ∉ name) (typeless : ':' ∉ declared)
    (plainKind : (Schema.kindOf declared).isEnumerable = false)
    (listed : ∀ segment ∈ list, segment.IsListed) (some : ∃ segment ∈ list, segment.isRule = true)
    (read : field ∈ (Schema.readField
      (name ++ ':' :: (declared ++ ':' :: Schema.ruleList list))).1)
    (member : field ∈ (ofOptions options).fields) :
    RulesIntact (ofOptions options) field (list.filter Schema.Segment.isRule) ↔
      ¬Schema.HidesRules list ∧ ¬Schema.NamesRecords list ∧
        ∀ rule ∈ list.filter Schema.Segment.isRule, trim rule.text = rule.text := by
  have notSelect : Schema.kindOf declared = .select →
      Schema.splitOptionsRule? [] (trimEnd (Schema.ruleList list)) = none := fun isSelect => by
    rw [isSelect] at plainKind
    exact absurd plainKind (by decide)
  rw [Schema.readField_written nameless typeless,
    Schema.splitOptions_eq_cutAtColon notSelect] at read
  split at read
  · exact absurd read (Option.not_mem_none _)
  · obtain rfl := Option.some.inj read
    have rules : ∀ rule ∈ list.filter Schema.Segment.isRule, rule.IsListed := fun rule inside =>
      listed rule (List.mem_filter.mp inside).1
    have several : list.filter Schema.Segment.isRule ≠ [] := by
      obtain ⟨segment, inside, isRule⟩ := some
      exact List.ne_nil_of_mem (List.mem_filter.mpr ⟨inside, isRule⟩)
    by_cases cut : Schema.HidesRules list ∨ Schema.NamesRecords list
    · refine iff_of_false (fun intact => ?_) fun whole => cut.elim whole.1 whole.2.1
      obtain ⟨others, kept, filled, validation, other⟩ :=
        Schema.validation_of_cut listed cut (trim name) (Schema.kindOf declared)
      have own := intact.own
      rw [fieldRules_of_validation kept filled validation, List.singleton_inj,
        ValidationRule.mk.injEq] at own
      exact other own.2
    · obtain ⟨shown, unnamed⟩ := not_or.mp cut
      have validation := Schema.validation_of_whole listed some shown unnamed (trim name)
        (Schema.kindOf declared)
      constructor
      · intro intact
        have own := intact.own
        rw [fieldRules_of_validation (Schema.isKept_of_mem_tidied rules) (by simpa using several)
          validation, List.singleton_inj, ValidationRule.mk.injEq,
          Schema.ruleList_tidied_eq_iff rules several] at own
        exact ⟨shown, unnamed, own.2⟩
      · rintro ⟨-, -, trimmed⟩
        rw [(Schema.ruleList_tidied_eq_iff rules several).mpr trimmed] at validation
        exact rulesIntact_of_validation
          (fun rule inside => ⟨rules rule inside, trimmed rule inside⟩) several
          (fun rule => mem_rules_of_mem_fieldRules member) validation

/-- Proofs with a slug that is searched, must be there and occurs once. -/
def sluggedProofs : Options :=
  { displayName := "Proof", fields := "slug:text:required|searchable|unique:proofs" }

/-- The slug of such a proof. -/
def slug : Field :=
  ⟨"slug", .text, false, some "required|unique:proofs", .none, ⟨false, false, true⟩⟩

/-- Both rules of the slug reach both requests. -/
theorem rulesIntact_slug : RulesIntact (ofOptions sluggedProofs) slug
    [.rule "required", .parameterised "unique" "proofs"] :=
  (@rulesIntact_iff slug sluggedProofs "slug" "text"
    [.rule "required", .flag .searchable, .parameterised "unique" "proofs"]
    (by decide) (by decide) (by decide +kernel) (by decide +kernel) (by decide)
    (by decide +kernel) (by decide +kernel)).mpr
      ⟨Schema.not_hidesRules_of_getLast? rfl (by decide), Schema.not_namesRecords (by decide),
        by decide⟩

/-- Proofs with a slug of which the rule that it occurs once comes first. -/
def hiddenRules : Options :=
  { displayName := "Proof", fields := "slug:text:unique:proofs|required" }

/-- The requests of such proofs neither say in which table the slug occurs once nor that it must be
there. -/
theorem hiddenRules_lost :
    (ofOptions hiddenRules).storeRuleLines = ["'slug' => 'unique',".toList] ∧
      (ofOptions hiddenRules).updateRuleLines = ["'slug' => 'unique',".toList] := by
  decide +kernel

/-- A slug that is changed leaves its own record out. -/
example : (ofOptions sluggedProofs).updateRuleLines =
    [("'slug' => ['required', Rule::unique('proofs', 'slug')" ++
      "->ignore($this->route('proof'))],").toList] := by
  decide +kernel

end Plan

end Scaffold

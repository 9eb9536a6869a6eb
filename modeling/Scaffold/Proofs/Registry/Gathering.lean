import Scaffold.Proofs.Registry.Reloading

/-!
# Entries gathered in one region

Registrations that share a region and an anchor are a family if each of their entries is recognised
by the lines of the entries with its key and by nothing else that the family adds
(`Registration.Family`). Inserted one after the other, in any order and as often as one likes, into
a file that holds none of them, they gather in one region: of each key the first entry, in the order
in which the keys first occur (`insertAll_gathers`).
-/
namespace Scaffold

namespace Entry

/-- The entries without those that follow one of the same key. -/
def firsts : List Entry → List Entry
  | [] => []
  | entry :: rest => entry :: (firsts rest).filter (·.key ≠ entry.key)

/-- Their keys are the keys of the entries, each where it first occurs. -/
theorem map_key_firsts (entries : List Entry) :
    (firsts entries).map (·.key) = firstOccurrences (entries.map (·.key)) := by
  induction entries with
  | nil => rfl
  | cons entry rest ih =>
    rw [firsts, List.map_cons, List.map_cons, firstOccurrences, ← ih, List.filter_map]
    rfl

/-- They are among the entries, in the same order. -/
theorem firsts_sublist (entries : List Entry) : (firsts entries).Sublist entries := by
  induction entries with
  | nil => exact .slnil
  | cons entry rest ih => exact ((List.filter_sublist).trans ih).cons_cons entry

/-- An entry whose key is known adds nothing new. -/
theorem new_firsts_of_mem {entry : Entry} {rest : List Entry} {keys : List Text}
    (known : entry.key ∈ keys) : (firsts (entry :: rest)).filter (·.key ∉ keys) =
      (firsts rest).filter (·.key ∉ keys) := by
  rw [firsts, List.filter_cons_of_neg (by simpa using known), List.filter_filter]
  refine List.filter_congr fun other _ => ?_
  by_cases same : other.key = entry.key
  · simp [same, known]
  · simp [same]

/-- An entry of a new key comes first, and its key is known from then on. -/
theorem new_firsts_of_notMem {entry : Entry} {rest : List Entry} {keys : List Text}
    (fresh : entry.key ∉ keys) : (firsts (entry :: rest)).filter (·.key ∉ keys) =
      entry :: (firsts rest).filter (·.key ∉ keys ++ [entry.key]) := by
  rw [firsts, List.filter_cons_of_pos (by simpa using fresh), List.filter_filter]
  congr 1
  refine List.filter_congr fun other _ => ?_
  by_cases same : other.key = entry.key <;> simp [same]

/-- Where entries of one key are of one kind, the first ones of a kind are the first ones among
those of this kind. -/
theorem filter_firsts {kind : Entry → Bool} {entries : List Entry}
    (told : ∀ entry ∈ entries, ∀ other ∈ entries, entry.key = other.key →
      kind entry = kind other) : (firsts entries).filter kind = firsts (entries.filter kind) := by
  induction entries with
  | nil => rfl
  | cons entry rest ih =>
    have later := ih fun one first two second =>
      told one (List.mem_cons_of_mem _ first) two (List.mem_cons_of_mem _ second)
    have swap : ((firsts rest).filter (·.key ≠ entry.key)).filter kind =
        (firsts (rest.filter kind)).filter (·.key ≠ entry.key) := by
      rw [← later, List.filter_filter, List.filter_filter]
      exact List.filter_congr fun _ _ => Bool.and_comm _ _
    by_cases own : kind entry = true
    · rw [firsts, List.filter_cons_of_pos own, List.filter_cons_of_pos own, firsts, swap]
    · rw [firsts, List.filter_cons_of_neg own, List.filter_cons_of_neg own, swap]
      refine List.filter_eq_self.mpr fun other member => ?_
      have kept := List.mem_filter.mp ((firsts_sublist _).subset member)
      refine decide_eq_true fun same => own ?_
      rw [← kept.2]
      exact told entry List.mem_cons_self other (List.mem_cons_of_mem _ kept.1) same.symm

end Entry

/-- Registrations of one region and one anchor whose entries are recognised by entries of the same
key and not mistaken for others. -/
structure Registration.Family (name : Text) (anchor : Anchor)
    (registrations : List Registration) : Prop where
  /-- The markers of the region have no blanks at their ends. -/
  tidy : SharedFile.Tidy name
  /-- All belong to the region and the anchor. -/
  uniform : ∀ registration ∈ registrations,
    registration.region = name ∧ registration.anchor = anchor
  /-- All that they add is lines. -/
  lined : ∀ registration ∈ registrations, registration.Lined
  /-- The text of every presence is one line. -/
  presence : ∀ registration ∈ registrations, Text.IsOneLine registration.entry.presence.text
  /-- No line of an entry ends the region. -/
  inner : ∀ registration ∈ registrations, ∀ margin : Text, (∀ c ∈ margin, c = ' ' ∨ c = '\t') →
    ∀ line ∈ registration.entry.linesAt margin, Text.trim line ≠ Marker.ending name
  /-- An entry is recognised by the lines of one with its key. -/
  own : ∀ registration ∈ registrations, ∀ other ∈ registrations,
    registration.entry.key = other.entry.key →
    ∀ margin : Text, (∀ c ∈ margin, c = ' ' ∨ c = '\t') →
    ∃ line ∈ other.entry.linesAt margin, registration.entry.recognisedIn line = true
  /-- It is not recognised by what is added for one with another key. -/
  apart : ∀ registration ∈ registrations, ∀ other ∈ registrations,
    registration.entry.key ≠ other.entry.key →
    ∀ margin : Text, (∀ c ∈ margin, c = ' ' ∨ c = '\t') →
    ∀ line ∈ SharedFile.newRegion other margin, registration.entry.recognisedIn line = false

namespace SharedFile

variable {file : SharedFile} {name margin : Text} {entries seen : List Entry}
  {registrations : List Registration} {registration : Registration} {anchor : Anchor}
  {above below : List Text}

/-- The lines of a region with entries. Without entries there is no region. -/
def regionLines (name margin : Text) (entries : List Entry) : List Text :=
  if entries = [] then []
  else (margin ++ Marker.beginning name) :: entries.flatMap (·.linesAt margin) ++
    [margin ++ Marker.ending name]

/-- A new region is one with a single entry. -/
theorem newRegion_eq (registration : Registration) (margin : Text) :
    newRegion registration margin =
      regionLines registration.region margin [registration.entry] := by
  simp [newRegion, regionLines]

/-- An entry whose presence is one line is recognised in one of the lines. -/
theorem contains_iff_exists (some : file.lines ≠ []) (single : ∀ line ∈ file.lines, '\n' ∉ line)
    {entry : Entry} (line : Text.IsOneLine entry.presence.text) :
    file.contains entry = true ↔ ∃ line ∈ file.lines, entry.recognisedIn line = true := by
  rw [contains_eq, (Entry.rowWise_recognises line).iff_rows, joined,
    Text.rows_unlines_of_notMem some single]

/-- A line that is a marker of a region up to blanks is a marker. -/
theorem isMarker_of_trim {line rest : Text} (same : Text.trim line = Marker.start ++ rest) :
    Marker.isMarker line = true := by
  rw [Marker.isMarker, same, Text.startsWith, List.isPrefixOf_iff_prefix]
  exact List.prefix_append _ _

/-- Where a region stands whose markers are known. -/
theorem region?_of_split {first last : Text} {inner : List Text}
    (lines : file.lines = above ++ (first :: inner ++ last :: below))
    (begins : Text.trim first = Marker.beginning name)
    (ends : Text.trim last = Marker.ending name)
    (front : ∀ line ∈ above, Text.trim line ≠ Marker.beginning name)
    (between : ∀ line ∈ inner, Text.trim line ≠ Marker.ending name) :
    file.region? name =
      some ⟨above.length, above.length + (inner.length + 1), Text.leadingBlanks first⟩ := by
  have start : indexOf? file.lines (Marker.beginning name) = some above.length := by
    have none : above.findIdx? (fun line => Text.trim line = Marker.beginning name) = none := by
      simpa [List.findIdx?_eq_none_iff] using front
    simp [indexOf?, lines, List.findIdx?_append, none, List.findIdx?_cons, begins]
  have behind : file.lines.drop above.length = first :: inner ++ last :: below := by
    rw [lines, List.drop_left]
  have stop : indexOf? (first :: inner ++ last :: below) (Marker.ending name) =
      some (inner.length + 1) := by
    have none : inner.findIdx? (fun line => Text.trim line = Marker.ending name) = none := by
      simpa [List.findIdx?_eq_none_iff] using between
    simp [indexOf?, List.findIdx?_append, List.findIdx?_cons, begins, none, ends,
      beginning_ne_ending]
  have own : file.lines.getD above.length [] = first := by
    rw [lines]
    simp
  simp only [region?, start, behind, stop, own, Option.bind_eq_bind, Option.bind_some]

/-- Spaces and tabs are blanks. -/
theorem isBlank_of_space_or_tab (margins : ∀ c ∈ margin, c = ' ' ∨ c = '\t') :
    ∀ c ∈ margin, Text.isBlank c = true := by
  intro c inside
  rcases margins c inside with rfl | rfl <;> decide

/-- A region with entries is found where it stands. -/
theorem region?_regionLines (tidy : Tidy name) (blank : ∀ c ∈ margin, Text.isBlank c = true)
    (some : seen ≠ []) (front : ∀ line ∈ above, Text.trim line ≠ Marker.beginning name)
    (inner : ∀ entry ∈ seen, ∀ line ∈ entry.linesAt margin, Text.trim line ≠ Marker.ending name)
    (lines : file.lines = above ++ regionLines name margin seen ++ below) :
    file.region? name = .some ⟨above.length,
      above.length + ((seen.flatMap (·.linesAt margin)).length + 1), margin⟩ := by
  have whole : Text.leadingBlanks (margin ++ Marker.beginning name) = margin := by
    have slash : Marker.start = '/' :: Marker.start.tail := by decide
    rw [Text.leadingBlanks, List.takeWhile_append_of_pos blank, Marker.beginning, slash]
    simp [show Text.isBlank '/' = false by decide]
  have split : file.lines = above ++ ((margin ++ Marker.beginning name) ::
      seen.flatMap (·.linesAt margin) ++ (margin ++ Marker.ending name) :: below) := by
    rw [lines, regionLines, if_neg some]
    simp
  rw [region?_of_split split, whole]
  · rw [Text.trim_append_left blank, tidy.1]
  · rw [Text.trim_append_left blank, tidy.2]
  · exact front
  · intro line inside
    obtain ⟨entry, there, here⟩ := List.mem_flatMap.mp inside
    exact inner entry there line here

/-- An entry that is not there goes to the end of such a region. -/
theorem insert_regionLines (tidy : Tidy registration.region)
    (blank : ∀ c ∈ margin, Text.isBlank c = true) (some : seen ≠ [])
    (front : ∀ line ∈ above, Text.trim line ≠ Marker.beginning registration.region)
    (inner : ∀ entry ∈ seen, ∀ line ∈ entry.linesAt margin,
      Text.trim line ≠ Marker.ending registration.region)
    (lines : file.lines = above ++ regionLines registration.region margin seen ++ below)
    (absent : file.contains registration.entry = false) :
    file.insert registration = .ok (.inserted, { file with
      lines := above ++ regionLines registration.region margin (seen ++ [registration.entry]) ++
        below }) := by
  have region := region?_regionLines tidy blank some front inner lines
  -- The entry goes in front of the line that ends the region.
  have split : file.lines = (above ++ (margin ++ Marker.beginning registration.region) ::
      seen.flatMap (·.linesAt margin)) ++
        ((margin ++ Marker.ending registration.region) :: below) := by
    rw [lines, regionLines, if_neg some]
    simp
  have length : above.length + ((seen.flatMap (·.linesAt margin)).length + 1) =
      (above ++ (margin ++ Marker.beginning registration.region) ::
        seen.flatMap (·.linesAt margin)).length := by
    simp
  rw [insert, absent, region]
  simp only [Bool.false_eq_true, ↓reduceIte, insertLines, length, split, List.take_left,
    List.drop_left]
  simp [regionLines]

/-- Lines that are no markers and by which none of the entries is recognised. -/
def Ground (registrations : List Registration) (lines : List Text) : Prop :=
  ∀ line ∈ lines, '\n' ∉ line ∧ Marker.isMarker line = false ∧
    ∀ registration ∈ registrations, registration.entry.recognisedIn line = false

/-- Every entry is one of the registrations. -/
def Stem (registrations : List Registration) (entries : List Entry) : Prop :=
  ∀ entry ∈ entries, ∃ registration ∈ registrations, registration.entry = entry

/-- What a registration of lines adds behind spaces and tabs is lines. -/
theorem feed_notMem_newRegion (lined : registration.Lined)
    (margins : ∀ c ∈ margin, c = ' ' ∨ c = '\t') {line : Text}
    (member : line ∈ newRegion registration margin) : '\n' ∉ line := by
  have sides : ∀ c ∈ margin, isInLine c := fun c side => by
    rcases margins c side with rfl | rfl <;> (unfold isInLine; decide)
  exact fun feed => (legal_newRegion lined.legal sides line member _ feed).1 rfl

/-- A line of a region is one that is added for one of its entries. -/
theorem exists_mem_newRegion (family : Registration.Family name anchor registrations)
    (stem : Stem registrations seen) {line : Text} (member : line ∈ regionLines name margin seen) :
    ∃ registration ∈ registrations, registration.entry ∈ seen ∧
      line ∈ newRegion registration margin := by
  cases seen with
  | nil => simp [regionLines] at member
  | cons first rest =>
    rw [regionLines, if_neg (by simp)] at member
    have around : ∃ registration ∈ registrations, registration.entry ∈ first :: rest ∧
        registration.region = name := by
      obtain ⟨registration, listed, same⟩ := stem first List.mem_cons_self
      exact ⟨registration, listed, same ▸ List.mem_cons_self, (family.uniform _ listed).1⟩
    obtain ⟨outer, listed, own, region⟩ := around
    rcases List.mem_append.mp member with early | last
    · rcases List.mem_cons.mp early with same | inner
      · exact ⟨outer, listed, own, by simp [newRegion, same, region]⟩
      · obtain ⟨entry, there, here⟩ := List.mem_flatMap.mp inner
        obtain ⟨registration, among, rfl⟩ := stem entry there
        exact ⟨registration, among, there, mem_newRegion here⟩
    · exact ⟨outer, listed, own, by simp [newRegion, List.mem_singleton.mp last, region]⟩

/-- An entry is recognised in a file with a region of the family exactly if one of its key is in
the region. -/
theorem contains_gathered (family : Registration.Family name anchor registrations)
    (margins : ∀ c ∈ margin, c = ' ' ∨ c = '\t') (ground : Ground registrations (above ++ below))
    (stem : Stem registrations seen) (some : seen ≠ [])
    (lines : file.lines = above ++ regionLines name margin seen ++ below)
    (member : registration ∈ registrations) :
    file.contains registration.entry = true ↔ registration.entry.key ∈ seen.map (·.key) := by
  have filled : file.lines ≠ [] := by
    rw [lines, regionLines, if_neg some]
    simp
  have single : ∀ line ∈ file.lines, '\n' ∉ line := by
    intro line inside
    rw [lines, List.append_assoc, List.mem_append, List.mem_append, ← or_assoc,
      or_right_comm, ← List.mem_append] at inside
    rcases inside with outer | inner
    · exact (ground line outer).1
    · obtain ⟨other, listed, -, there⟩ := exists_mem_newRegion family stem inner
      exact feed_notMem_newRegion (family.lined other listed) margins there
  rw [contains_iff_exists filled single (family.presence registration member), lines]
  constructor
  · rintro ⟨line, inside, recognised⟩
    refine Classical.byContradiction fun absent => ?_
    rw [List.append_assoc, List.mem_append, List.mem_append, ← or_assoc,
      or_right_comm, ← List.mem_append] at inside
    rcases inside with outer | inner
    · have none := (ground line outer).2.2 registration member
      rw [recognised] at none
      exact Bool.noConfusion none
    · obtain ⟨other, listed, own, there⟩ := exists_mem_newRegion family stem inner
      have different : registration.entry.key ≠ other.entry.key := fun same =>
        absent (List.mem_map.mpr ⟨other.entry, own, same.symm⟩)
      have none := family.apart registration member other listed different margin margins line there
      rw [recognised] at none
      exact Bool.noConfusion none
  · intro present
    obtain ⟨entry, there, same⟩ := List.mem_map.mp present
    obtain ⟨other, listed, rfl⟩ := stem entry there
    obtain ⟨line, inside, recognised⟩ :=
      family.own registration member other listed same.symm margin margins
    refine ⟨line, ?_, recognised⟩
    have inner : line ∈ regionLines name margin seen := by
      rw [regionLines, if_neg some]
      exact List.mem_append_left _
        (List.mem_cons_of_mem _ (List.mem_flatMap.mpr ⟨_, there, inside⟩))
    exact List.mem_append_left _ (List.mem_append_right _ inner)

/-- **An entry goes to the end of the region, unless one of its key is there.** -/
theorem insert_gathered (family : Registration.Family name anchor registrations)
    (margins : ∀ c ∈ margin, c = ' ' ∨ c = '\t') (ground : Ground registrations (above ++ below))
    (stem : Stem registrations seen) (some : seen ≠ [])
    (lines : file.lines = above ++ regionLines name margin seen ++ below)
    (member : registration ∈ registrations) :
    file.insert registration = .ok (if registration.entry.key ∈ seen.map (·.key) then
        (.alreadyPresent, file)
      else (.inserted, { file with
        lines := above ++ regionLines name margin (seen ++ [registration.entry]) ++ below })) := by
  have known := contains_gathered family margins ground stem some lines member
  by_cases present : registration.entry.key ∈ seen.map (·.key)
  · rw [insert_of_contains (known.mpr present), if_pos present]
  · have absent : file.contains registration.entry = false := by
      rw [Bool.eq_false_iff]
      exact fun found => present (known.mp found)
    obtain ⟨rfl, -⟩ := family.uniform registration member
    rw [if_neg present]
    refine insert_regionLines family.tidy (isBlank_of_space_or_tab margins) some ?_ ?_ lines absent
    · intro line inside same
      have marker := (ground line (List.mem_append_left _ inside)).2.1
      rw [Marker.beginning, List.append_assoc] at same
      rw [isMarker_of_trim same] at marker
      exact Bool.noConfusion marker
    · intro entry there
      obtain ⟨other, listed, rfl⟩ := stem entry there
      exact family.inner other listed margin margins

end SharedFile

namespace Project

open SharedFile

variable {path : FilePath} {file : SharedFile} {name margin : Text} {seen : List Entry}
  {registrations more : List Registration} {anchor : Anchor} {above below : List Text}

/-- Entries of the family go to the end of their region, each of a new key once. -/
theorem insertAll_gathered (family : Registration.Family name anchor registrations)
    (margins : ∀ c ∈ margin, c = ' ' ∨ c = '\t') (ground : Ground registrations (above ++ below))
    (stem : Stem registrations seen) (some : seen ≠ [])
    (lines : file.lines = above ++ regionLines name margin seen ++ below)
    (among : more ⊆ registrations) :
    ∃ reports, insertAll path file more = .ok ({ file with
      lines := above ++ regionLines name margin (seen ++
        (Entry.firsts (more.map (·.entry))).filter (·.key ∉ seen.map (·.key))) ++ below },
      reports) := by
  induction more generalizing file seen with
  | nil => exact ⟨[], by simp [insertAll, Entry.firsts, ← lines]⟩
  | cons registration rest ih =>
    have member := among List.mem_cons_self
    have later : rest ⊆ registrations := fun other inside =>
      among (List.mem_cons_of_mem _ inside)
    have first := insert_gathered family margins ground stem some lines member
    by_cases present : registration.entry.key ∈ seen.map (·.key)
    · rw [if_pos present] at first
      obtain ⟨reports, others⟩ := ih stem some lines later
      rw [List.map_cons, Entry.new_firsts_of_mem present]
      exact ⟨_, insertAll_cons_ok.mpr ⟨_, _, reports, first, others, rfl⟩⟩
    · rw [if_neg present] at first
      have grown : Stem registrations (seen ++ [registration.entry]) := by
        intro entry inside
        rcases List.mem_append.mp inside with old | new
        · exact stem entry old
        · exact ⟨registration, member, (List.mem_singleton.mp new).symm⟩
      obtain ⟨reports, others⟩ := @ih { file with
        lines := above ++ regionLines name margin (seen ++ [registration.entry]) ++ below }
        _ grown (by simp) rfl later
      rw [List.map_append, List.map_singleton, List.append_assoc seen, List.singleton_append]
        at others
      rw [List.map_cons, Entry.new_firsts_of_notMem present]
      exact ⟨_, insertAll_cons_ok.mpr ⟨_, _, reports, first, others, rfl⟩⟩

/-- **Entries of a family gather in one region.** Inserted one after the other into a file that
holds none of them and in which the anchor is found, they make one region at the anchor, with the
first entry of each key in the order in which the keys first occur. -/
theorem insertAll_gathers (family : Registration.Family name anchor registrations)
    (ground : Ground registrations file.lines) (some : file.lines ≠ []) {site : Site}
    (found : anchor.locate file.toText = .ok (.some site)) :
    ∃ reports, insertAll path file registrations = .ok ({ file with
      lines := file.lines.take site.line ++
        regionLines name site.margin (Entry.firsts (registrations.map (·.entry))) ++
        file.lines.drop site.line }, reports) := by
  cases split : registrations with
  | nil => exact ⟨[], by simp [insertAll, Entry.firsts, regionLines]⟩
  | cons registration rest =>
    have member : registration ∈ registrations := split ▸ List.mem_cons_self
    have later : rest ⊆ registrations := fun other inside =>
      split ▸ List.mem_cons_of_mem _ inside
    have margins := space_or_tab_of_mem_site found
    have absent : file.contains registration.entry = false := by
      rw [Bool.eq_false_iff, ne_eq, contains_iff_exists some (fun line inside =>
        (ground line inside).1) (family.presence registration member)]
      rintro ⟨line, inside, recognised⟩
      have none := (ground line inside).2.2 registration member
      rw [recognised] at none
      exact Bool.noConfusion none
    have missing : file.region? name = none := by
      rw [region?_eq_none_iff]
      rintro ⟨first, last, both, begins, -⟩
      have marker := (ground first (both.subset List.mem_cons_self)).2.1
      rw [Marker.beginning, List.append_assoc] at begins
      rw [isMarker_of_trim begins] at marker
      exact Bool.noConfusion marker
    obtain ⟨region, anchored⟩ := family.uniform registration member
    have first : file.insert registration = .ok (.inserted,
        file.insertLines site.line (newRegion registration site.margin)) := by
      rw [SharedFile.insert, absent, region, missing, anchored, found]
      rfl
    rw [newRegion_eq, region] at first
    have stem : Stem registrations [registration.entry] := fun entry inside =>
      ⟨registration, member, (List.mem_singleton.mp inside).symm⟩
    have whole : Ground registrations (file.lines.take site.line ++ file.lines.drop site.line) := by
      rwa [List.take_append_drop]
    have begun : (file.insertLines site.line
        (regionLines name site.margin [registration.entry])).lines = file.lines.take site.line ++
          regionLines name site.margin [registration.entry] ++ file.lines.drop site.line := rfl
    obtain ⟨reports, others⟩ :=
      insertAll_gathered family margins whole stem (by simp) begun later
    simp only [List.map_singleton, List.mem_singleton, List.singleton_append] at others
    exact ⟨_, insertAll_cons_ok.mpr ⟨_, _, reports, first, others, rfl⟩⟩

end Project

end Scaffold

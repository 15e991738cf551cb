import RemoteStack.Layout.Basic
import RemoteStack.Log.Level

/-!
# Catalogs of layouts

A `Catalog` is a list of entries, each of which declares the fields of one kind of object
for a range of releases. Ranges may overlap. Of the entries that hold for a release, the
one with the smallest span is chosen; of equally narrow ones, one that claims the release
as a boundary; of those, the first.

The layouts are computed ahead, when a catalog is made of its entries (`Catalog.ofEntries`):
one for each position of the catalog and each machine, by both of which they are looked up.
-/

namespace RemoteStack

/-- The fields of one kind of object for a range of releases. -/
structure CatalogEntry where
  kind : ObjectKind
  range : ReleaseRange
  /-- The releases that the entry claims when ranges tie. -/
  boundaries : List Release
  /-- The declarations, in segments that releases share. -/
  segments : List (List FieldDecl)
  deriving DecidableEq, Repr

namespace CatalogEntry

def claims (entry : CatalogEntry) (release : Release) : Bool := entry.boundaries.contains release

/-- The entry describes objects of the kind in the release. -/
def Serves (entry : CatalogEntry) (kind : ObjectKind) (release : Release) : Prop :=
  entry.kind = kind ∧ release ∈ entry.range

instance (entry : CatalogEntry) (kind : ObjectKind) (release : Release) :
    Decidable (entry.Serves kind release) :=
  inferInstanceAs (Decidable (_ ∧ _))

/-- The entry says more about the release than the other one does. -/
def Beats (release : Release) (entry other : CatalogEntry) : Prop :=
  entry.range.span < other.range.span ∨
    (entry.range.span = other.range.span ∧ entry.claims release ∧ ¬other.claims release)

instance (release : Release) (entry other : CatalogEntry) :
    Decidable (entry.Beats release other) :=
  inferInstanceAs (Decidable (_ ∨ _))

/-- The declarations of the segments, one segment after the other. -/
def fields (entry : CatalogEntry) : List FieldDecl := entry.segments.flatten

def layout (entry : CatalogEntry) (abi : Abi) : Layout :=
  .ofDecls entry.kind entry.range abi entry.fields

/-- The machines that layouts are computed for. -/
def machines : List Abi :=
  [⟨.four, .lp64⟩, ⟨.four, .llp64⟩, ⟨.eight, .lp64⟩, ⟨.eight, .llp64⟩]

/-- The layouts of an entry, with its position and their machines. -/
def layouts (entry : CatalogEntry) (position : Nat) : List ((Nat × Abi) × Layout) :=
  machines.map fun abi => ((position, abi), entry.layout abi)

end CatalogEntry

structure Catalog where
  entries : List CatalogEntry
  /-- The layouts, by the position of the entry and the machine. -/
  layouts : List ((Nat × Abi) × Layout)
  layouts_eq : layouts = entries.zipIdx.flatMap fun (entry, position) => entry.layouts position
  deriving DecidableEq, Repr

namespace Catalog

/-- The catalog of the entries, with all layouts computed. -/
def ofEntries (entries : List CatalogEntry) : Catalog := ⟨entries, _, rfl⟩

/-- The entries for the kind in the release, each with its position in the catalog. -/
def candidates (catalog : Catalog) (kind : ObjectKind) (release : Release) :
    List (CatalogEntry × Nat) :=
  catalog.entries.zipIdx.filter fun (entry, _) => entry.Serves kind release

/-- The better of two candidates; of equally good ones, the earlier. -/
def better (release : Release) (earlier later : CatalogEntry × Nat) : CatalogEntry × Nat :=
  if later.1.Beats release earlier.1 then later else earlier

/-- The best candidate and its position. -/
def select? (catalog : Catalog) (kind : ObjectKind) (release : Release) :
    Option (CatalogEntry × Nat) :=
  match catalog.candidates kind release with
  | [] => none
  | first :: rest => some (rest.foldl (better release) first)

/-- What the log says when there was a choice. -/
def selectionEvents (catalog : Catalog) (kind : ObjectKind) (release : Release) :
    List Log.Event :=
  let count := (catalog.candidates kind release).length
  match catalog.select? kind release with
  | some (entry, _) =>
    if 1 < count then
      [⟨.trace, s!"{count} candidate {kind.name} layouts for {release.text}, "
        ++ s!"chose {entry.range.text}"⟩]
    else []
  | none => []

/-! ## Layouts -/

/-- The layout that was computed for the entry at a position and a machine. -/
def layoutAt? (catalog : Catalog) (position : Nat) (abi : Abi) : Option Layout :=
  catalog.layouts.lookup (position, abi)

/-- The layout of the kind in the release on a machine: that of the best candidate. -/
def layoutOn (catalog : Catalog) (kind : ObjectKind) (release : Release) (abi : Abi) :
    Except DecodeError Layout :=
  let refuse (reason : String) : Except DecodeError Layout :=
    .error (.unsupportedVersion release abi.wordSize reason)
  match catalog.select? kind release with
  | none => refuse s!"no {kind.name} layout covers this release"
  | some (_, position) =>
    match catalog.layoutAt? position abi with
    | none => refuse s!"no {kind.name} layout for this target"
    | some layout => .ok layout

/-- The layout of the kind for the version. -/
def layoutFor (catalog : Catalog) (kind : ObjectKind) (version : Version) :
    Except DecodeError Layout :=
  catalog.layoutOn kind version.release version.abi

end Catalog

end RemoteStack

import Concord.Proofs.SeedLists

/-!
# Seeding reads outlines

The outline of a catalog keeps of every type its number, its names and its place, and none of its
members. Seeding reads nothing else: which pairs seeds and namesakes stand for
(`seedPairs_congr`), how types are aligned (`align_congr`) and what the names in signatures are
resolved to (`resolve_congr`) is the same for catalogs with the same outlines. What two recoveries
give for such catalogs can therefore differ only in the members of single types
(`value_recoverNames_congr`).
-/

set_option autoImplicit false

namespace Concord

open Concordance

/-! ## Outlines -/

/-- An entry without members and namespace. -/
def CatalogEntry.outline (e : CatalogEntry) : CatalogEntry :=
  { e with decl := { name := e.decl.name } }

namespace Catalog

/-- A catalog without the members of its types. -/
def outline (g : Catalog) : Catalog where
  name := ""
  entries := g.entries.map CatalogEntry.outline
  roots := g.roots
  byName := g.byName

@[simp] theorem roots_outline (g : Catalog) : g.outline.roots = g.roots := rfl

@[simp] theorem size_outline (g : Catalog) : g.outline.size = g.size := by
  simp [outline, size]

@[simp] theorem entry?_outline (g : Catalog) (x : TypeNumber) :
    g.outline.entry? x = (g.entry? x).map CatalogEntry.outline := by
  simp [outline, entry?]

@[simp] theorem fullName_outline (g : Catalog) (x : TypeNumber) :
    g.outline.fullName x = g.fullName x := by
  cases hx : g.entry? x <;> simp [fullName, hx, CatalogEntry.outline]

@[simp] theorem isNested_outline (g : Catalog) (x : TypeNumber) :
    g.outline.isNested x = g.isNested x := by
  cases hx : g.entry? x <;> simp [isNested, hx, CatalogEntry.outline, CatalogEntry.isNested]

@[simp] theorem find?_outline (g : Catalog) (s : String) : g.outline.find? s = g.find? s := rfl

@[simp] theorem root?_outline (g : Catalog) (s : String) : g.outline.root? s = g.root? s := by
  simp [root?]

end Catalog

/-! ## What seeding reads -/

theorem nestedPairs_outline (renamed reference : Catalog) (pair : TypeNumber × TypeNumber) :
    nestedPairs renamed.outline reference.outline pair = nestedPairs renamed reference pair := by
  unfold nestedPairs
  cases hx : renamed.entry? pair.1 <;> cases hy : reference.entry? pair.2 <;>
    simp [hx, hy, CatalogEntry.outline]

theorem align_outline (renamed reference : Catalog) :
    align renamed.outline reference.outline = align renamed reference := by
  funext pair
  rw [align, align, funext (nestedPairs_outline renamed reference), Catalog.size_outline]

theorem seedPairs_outline (settings : Settings) (reference renamed : Catalog) (seeds : List Seed) :
    seedPairs settings reference.outline renamed.outline seeds =
      seedPairs settings reference renamed seeds := by
  have hseed : Seed.pair? settings reference.outline renamed.outline =
      Seed.pair? settings reference renamed := by
    funext s
    simp [Seed.pair?]
  have hnamesakes : namesakePair? reference.outline renamed.outline =
      namesakePair? reference renamed := by
    funext y
    simp [namesakePair?]
  simp [seedPairs, namesakes, hseed, hnamesakes]

section
variable {reference renamed : Catalog} (hr : renamed.Sound) (hc : reference.Sound)
  (seeds : List Seed) (settings : Settings)
include hr hc

/-- The types that seeding binds. -/
theorem bindings_seeded : (seeded reference renamed seeds settings).concordance.bindings.Perm
    (((seedPairs settings reference renamed seeds).foldl addRoot []).flatMap fun pair =>
      (align renamed reference pair).labels) := by
  have hs := (seeded_rooted hr hc seeds settings).2
  have hperm := hs.complete.bindings_perm
  rw [hs.grows.renamed, hs.grows.reference, hs.roots] at hperm
  exact hperm

theorem resolve_recoveryFrom (s : String) :
    (recoveryFrom reference renamed seeds settings).resolve s = (((renamed.find? s).bind
      (seeded reference renamed seeds settings).concordance.referenceOf?).map
        reference.fullName).getD s := by
  have hrenamed := renamed_recoveryFrom hr hc seeds settings
  have hwell := (seeded_rooted hr hc seeds settings).2.complete.wellFormed
  rw [Recovery.resolve_eq (m := recoveryFrom reference renamed seeds settings) hwell
    (hrenamed.symm ▸ hr), hrenamed, reference_recoveryFrom hr hc]
  rfl

end

/-! ## Catalogs with the same outlines -/

section
variable {reference renamed reference' renamed' : Catalog}
  (hreference : reference'.outline = reference.outline)
  (hrenamed : renamed'.outline = renamed.outline)
include hreference hrenamed

theorem align_congr : align renamed' reference' = align renamed reference := by
  rw [← align_outline, hreference, hrenamed, align_outline]

theorem seedPairs_congr (settings : Settings) (seeds : List Seed) :
    seedPairs settings reference' renamed' seeds = seedPairs settings reference renamed seeds := by
  rw [← seedPairs_outline, hreference, hrenamed, seedPairs_outline]

variable (hr : renamed.Sound) (hc : reference.Sound) (hr' : renamed'.Sound) (hc' : reference'.Sound)
  (seeds : List Seed) (settings : Settings)
include hr hc hr' hc'

theorem referenceOf?_congr :
    (seeded reference' renamed' seeds settings).concordance.referenceOf? =
      (seeded reference renamed seeds settings).concordance.referenceOf? := by
  have hs := (seeded_rooted hr hc seeds settings).2.complete.wellFormed
  have hs' := (seeded_rooted hr' hc' seeds settings).2.complete.wellFormed
  have hperm := bindings_seeded hr' hc' seeds settings
  rw [seedPairs_congr hreference hrenamed, align_congr hreference hrenamed] at hperm
  exact hs.referenceOf?_congr hs' (hperm.trans (bindings_seeded hr hc seeds settings).symm)

/-- Names in signatures are resolved alike. -/
theorem resolve_congr : (recoveryFrom reference' renamed' seeds settings).resolve =
    (recoveryFrom reference renamed seeds settings).resolve := by
  funext s
  have hfind : renamed'.find? s = renamed.find? s := by
    rw [← Catalog.find?_outline, hrenamed, Catalog.find?_outline]
  have hname : reference'.fullName = reference.fullName := by
    funext y
    rw [← Catalog.fullName_outline, hreference, Catalog.fullName_outline]
  rw [resolve_recoveryFrom hr' hc', resolve_recoveryFrom hr hc, hfind, hname,
    referenceOf?_congr hreference hrenamed hr hc hr' hc']

/-- **Only members are left to differ**: catalogs with the same outlines give the same names, if
each pair of types does. -/
theorem value_recoverNames_congr (hat : (recoveryFrom reference' renamed' seeds settings).namesAt =
      (recoveryFrom reference renamed seeds settings).namesAt) :
    (recoverNames reference' renamed' seeds settings).value =
      (recoverNames reference renamed seeds settings).value := by
  have hnames : (recoveryFrom reference' renamed' seeds settings).names =
      (recoveryFrom reference renamed seeds settings).names :=
    funext fun t => Recovery.names_congr_on t fun _ _ => by rw [hat]
  rw [value_recoverNames hr' hc', value_recoverNames hr hc, rootTrees_recoveryFrom hr' hc',
    rootTrees_recoveryFrom hr hc, seedPairs_congr hreference hrenamed,
    align_congr hreference hrenamed, hnames]

end

end Concord

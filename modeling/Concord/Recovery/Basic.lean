import Concord.Settings
import Concord.Recovery.Tree
import Concord.Seed

/-!
# Recovering names

`recoverNames` plants seeds in a concordance, those of a list and, if asked for, the types that
kept their names, and makes the trees of recovered names.
-/

namespace Concord

/-- The score of namesakes: no threshold keeps them out. -/
def namesakeScore : Float := 1.0 / 0.0

/-- A seed that cannot be used is passed over; any other refusal is an error. -/
def Refusal.isSeedFault : Refusal → Bool
  | .noSeedType .. | .nestedSeed .. => true
  | _ => false

/-- Uses one seed. -/
def useSeed (settings : Settings) (g : Concordance) (s : Seed) : Reply Unit :=
  if s.score < settings.minScore then
    { answer := .ok (), concordance := g
      events := [.scoreTooLow s.renamed s.reference s.score] }
  else
    let reply := g.plantByName s.renamed s.reference s.score
    match reply.answer with
    | .ok _ => { reply with answer := .ok () }
    | .error e =>
      if e.isSeedFault then
        { answer := .ok (), concordance := reply.concordance
          events := reply.events ++ [.seedRefused e] }
      else { reply with answer := .error e }

/-- Uses all seeds, in order. -/
def useSeeds (settings : Settings) : List Seed → Concordance → Reply Unit
  | [], g => { answer := .ok (), concordance := g }
  | s :: rest, g => (useSeed settings g s).andThen fun () h => useSeeds settings rest h

/-- Plants namesakes, if asked for. -/
def useNamesakes (settings : Settings) (g : Concordance) : Reply Unit :=
  if settings.pairByName then
    (g.plantNamesakes namesakeScore).andThen fun count h =>
      { answer := .ok (), concordance := h, events := [.pairedByName count] }
  else { answer := .ok (), concordance := g }

/-- The concordance after all seeds have been used. -/
def seeded (reference renamed : Catalog) (seeds : List Seed) (settings : Settings) :
    Reply Unit :=
  (useSeeds settings seeds (.empty reference renamed)).andThen fun () g =>
    (useNamesakes settings g).andThen fun () h =>
      { answer := .ok (), concordance := h, events := [.seedingDone h.roots.length h.size] }

/-- Recovers the names of a renamed module from a reference module. -/
def recoverNames (reference renamed : Catalog) (seeds : List Seed) (settings : Settings) :
    Logged (Except Refusal NameForest) :=
  let start := seeded reference renamed seeds settings
  match start.answer with
  | .error e => { value := .error e, events := start.events }
  | .ok () =>
    let recovery : Recovery :=
      { concordance := start.concordance, looksRenamed := settings.looksRenamed }
    let forest := recovery.forest
    { value := .ok forest.value, events := start.events ++ forest.events }

end Concord

import Concord.Concordance.Basic

/-!
# Planting seeds

A seed is a pair of types, neither of them nested, that are known to correspond. Planting it
binds them and then pairs the types nested in them by order of declaration, level by level, wherever
both sides declare equally many.
-/

namespace Concord

namespace Reply

/-- The reply to one request after another: the events of both, in order. -/
def andThen {α β : Type} (first : Reply α) (next : α → Concordance → Reply β) : Reply β :=
  match first.answer with
  | .error e => { answer := .error e, concordance := first.concordance, events := first.events }
  | .ok a =>
    let second := next a first.concordance
    { second with events := first.events ++ second.events }

/-- Changes the answer. -/
def map {α β : Type} (f : α → β) (reply : Reply α) : Reply β :=
  { reply with answer := reply.answer.map f }

end Reply

namespace Concordance

/-- Binds pairs of a renamed and a reference type under `parent`. Answers with the
pairings that were created. -/
def pairEach (parent : PairingNumber) :
    List (TypeNumber × TypeNumber) → Concordance → Reply (List PairingNumber)
  | [], g => { answer := .ok [], concordance := g }
  | (renamed, reference) :: rest, g =>
    (g.ensure renamed reference (some parent)).andThen fun child h =>
      (pairEach parent rest h).map fun created =>
        if g.size < h.size then child :: created else created

/-- Pairs the types nested in a pairing, if both sides declare equally many. Answers with
the pairings that were created. -/
def pairNested (g : Concordance) (id : PairingNumber) : Reply (List PairingNumber) :=
  match g.pairing? id with
  | none => { answer := .error (.noPairing id), concordance := g }
  | some n =>
    match g.renamed.entry? n.renamed, g.reference.entry? n.reference with
    | none, _ => { answer := .error (.noRenamedType n.renamed), concordance := g }
    | some _, none => { answer := .error (.noReferenceType n.reference), concordance := g }
    | some renamed, some reference =>
      if renamed.nested.length = reference.nested.length then
        pairEach id (renamed.nested.zip reference.nested) g
      else
        { answer := .ok []
          concordance := g
          events := [.nestedCountsDiffer renamed.fullName reference.fullName
            renamed.nested.length reference.nested.length] }

/-- Pairs nested types until no new pairing is pending; the latest one comes next. Every
round handles a pairing that was created for a type of its own, so the number of renamed
types bounds the number of rounds. -/
def pairPending : Nat → List PairingNumber → Concordance → Reply Unit
  | 0, _, g | _, [], g => { answer := .ok (), concordance := g }
  | rounds + 1, next :: pending, g =>
    (g.pairNested next).andThen fun created h =>
      pairPending rounds (created.reverse ++ pending) h

/-- Gives a pairing its score. -/
def setScore (g : Concordance) (id : PairingNumber) (score : Float) : Concordance :=
  { g with pairings := g.pairings.modify id.index fun n => { n with score } }

/-- Why a pair cannot be a seed: one of its types is nested in another. -/
def seedRefusal? (g : Concordance) (renamed reference : TypeNumber) : Option Refusal :=
  if g.renamed.isNested renamed then
    some (.nestedSeed .renamed (g.renamed.fullName renamed))
  else if g.reference.isNested reference then
    some (.nestedSeed .reference (g.reference.fullName reference))
  else none

/-- Binds a pair of types and all types nested in them. A renamed type that is bound already
stays as it is. -/
def plant (g : Concordance) (renamed reference : TypeNumber) (score : Float) :
    Reply PairingNumber :=
  match g.seedRefusal? renamed reference with
  | some e => { answer := .error e, concordance := g }
  | none =>
    (g.ensure renamed reference none).andThen fun root h =>
      if h.size = g.size then { answer := .ok root, concordance := h }
      else
        (pairPending h.renamed.size [root] (h.setScore root score)).andThen fun () k =>
          { answer := .ok root
            concordance := k
            events := [.seeded (k.renamed.fullName renamed) (k.reference.fullName reference) score
              (k.size - g.size)] }

/-- Binds a pair of types given by their full names. -/
def plantByName (g : Concordance) (renamed reference : String) (score : Float) :
    Reply PairingNumber :=
  match g.renamed.find? renamed, g.reference.find? reference with
  | none, _ => { answer := .error (.noSeedType .renamed renamed), concordance := g }
  | some _, none => { answer := .error (.noSeedType .reference reference), concordance := g }
  | some renamed, some reference => g.plant renamed reference score

/-- The renamed type that is not nested and has the same full name as a reference type. -/
def namesake? (g : Concordance) (reference : TypeNumber) : Option TypeNumber :=
  (g.renamed.find? (g.reference.fullName reference)).filter (!g.renamed.isNested ·)

/-- Plants each of the given reference types that has a namesake. -/
def plantEach (score : Float) : List TypeNumber → Concordance → Reply Unit
  | [], g => { answer := .ok (), concordance := g }
  | reference :: rest, g =>
    match g.namesake? reference with
    | none => plantEach score rest g
    | some renamed =>
      (g.plant renamed reference score).andThen fun _ h => plantEach score rest h

/-- Plants every reference type that is not nested and has a namesake. Answers with the number
of new roots. -/
def plantNamesakes (g : Concordance) (score : Float) : Reply Nat :=
  (plantEach score g.reference.roots g).andThen fun () h =>
    { answer := .ok (h.roots.length - g.roots.length), concordance := h }

end Concordance

end Concord

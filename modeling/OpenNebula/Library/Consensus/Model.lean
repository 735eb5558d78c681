import Mathlib.Data.Finset.Card
import Mathlib.Data.List.Infix
import Mathlib.Logic.Function.Basic
import OpenNebula.Library.Majority

namespace OpenNebula.Library.Consensus

/-! # Replicated logs with elected leaders

The abstract protocol: every server has a current term and a log of entries,
each entry belongs to the epoch (the term) in which a leader appended it, a
server gives at most one vote in a term, and a server with the votes of a
majority leads the term with the log it stood for election with.  The fields
`cand`, `voted`, `reign` and `acked` are the history of the run: they only grow,
so that an invariant can speak of votes and acknowledgements of earlier terms.
-/

/-- The log of the leader of one term: the log it was elected with, and what it
appended since. -/
structure Reign (S E : Type) where
  leader : S
  base : List E
  own : List E

def Reign.log {S E : Type} (reign : Reign S E) : List E := reign.base ++ reign.own

structure Core (S E : Type) where
  term : S → Nat
  log : S → List E
  cand : S → Nat → Option (List E)
  /-- whom a server voted for in a term; its own candidacy counts when it wins -/
  voted : S → Nat → Option S
  reign : Nat → Option (Reign S E)
  /-- how much of the log of a term's leader a server acknowledged in that term -/
  acked : S → Nat → Nat

def lastEpoch {E : Type} (epoch : E → Nat) (log : List E) : Nat :=
  match log.getLast? with
  | none => 0
  | some entry => epoch entry

def UpToDate {E : Type} (epoch : E → Nat) (log other : List E) : Prop :=
  lastEpoch epoch other < lastEpoch epoch log ∨
    (lastEpoch epoch other = lastEpoch epoch log ∧ other.length ≤ log.length)

def store {E : Type} (epoch : E → Nat) (log : List E) (position : Nat) (entry : E) : List E :=
  match log[position]? with
  | some present => if epoch present = epoch entry then log else log.take position ++ [entry]
  | none => log.take position ++ [entry]

variable {S E : Type} [DecidableEq S]

def Core.start (S E : Type) : Core S E where
  term := fun _ => 0
  log := fun _ => []
  cand := fun _ _ => none
  voted := fun _ _ => none
  reign := fun _ => none
  acked := fun _ _ => 0

def setPair {β : Type} (f : S → Nat → β) (server : S) (term : Nat) (value : β) : S → Nat → β :=
  Function.update f server (Function.update (f server) term value)

section SetPair

variable {β : Type} (f : S → Nat → β) (server : S) (term : Nat) (value : β)

@[simp] theorem setPair_self : setPair f server term value server term = value := by
  simp [setPair]

theorem setPair_server {other : S} (apart : other ≠ server) : setPair f server term value other = f other := by
  simp [setPair, apart]

theorem setPair_term {other : Nat} (apart : other ≠ term) (any : S) :
    setPair f server term value any other = f any other := by
  by_cases same : any = server
  · subst same; simp [setPair, apart]
  · simp [setPair, same]

theorem setPair_cases (other : S) (when : Nat) :
    (other = server ∧ when = term ∧ setPair f server term value other when = value) ∨
      setPair f server term value other when = f other when := by
  by_cases sameServer : other = server
  · by_cases sameTerm : when = term
    · subst sameServer sameTerm; exact .inl ⟨rfl, rfl, by simp⟩
    · exact .inr (setPair_term f server term value sameTerm other)
  · exact .inr (by rw [setPair_server f server term value sameServer])

end SetPair

inductive Step (members : Finset S) (epoch : E → Nat) : Core S E → Core S E → Prop where
  | advance (core : Core S E) (server : S) (term : Nat) (later : core.term server ≤ term) :
      Step members epoch core { core with term := Function.update core.term server term }
  | stand (core : Core S E) (server : S) (term : Nat) (later : core.term server < term) :
      Step members epoch core
        { core with
          term := Function.update core.term server term
          cand := setPair core.cand server term (some (core.log server)) }
  | grant (core : Core S E) (server candidate : S) (apart : server ≠ candidate)
      (asked : core.term server ≤ core.term candidate)
      (free : core.voted server (core.term server) = none)
      (upToDate : ∀ log, core.cand candidate (core.term server) = some log → UpToDate epoch log (core.log server)) :
      Step members epoch core
        { core with voted := setPair core.voted server (core.term server) (some candidate) }
  | win (core : Core S E) (server : S) (quorum : Finset S)
      (stood : core.cand server (core.term server) = some (core.log server))
      (free : core.voted server (core.term server) = none)
      (majority : Majority members quorum) (self : server ∈ quorum)
      (votes : ∀ voter ∈ quorum, voter ≠ server → core.voted voter (core.term server) = some server) :
      Step members epoch core
        { core with
          voted := setPair core.voted server (core.term server) (some server)
          reign := Function.update core.reign (core.term server)
            (some ⟨server, core.log server, []⟩)
          acked := setPair core.acked server (core.term server) (core.log server).length }
  | append (core : Core S E) (reign : Reign S E) (term : Nat) (entry : E)
      (leads : core.reign term = some reign) (current : core.term reign.leader = term)
      (fresh : epoch entry = term) :
      Step members epoch core
        { core with
          log := Function.update core.log reign.leader (core.log reign.leader ++ [entry])
          reign := Function.update core.reign term
            (some { reign with own := reign.own ++ [entry] })
          acked := setPair core.acked reign.leader term (reign.log.length + 1) }
  | accept (core : Core S E) (server : S) (reign : Reign S E) (position : Nat) (entry : E)
      (leads : core.reign (core.term server) = some reign) (apart : server ≠ reign.leader)
      (present : reign.log[position]? = some entry)
      (previous : ∀ before, position = before + 1 → ∃ mine theirs, (core.log server)[before]? = some mine ∧
          reign.log[before]? = some theirs ∧ epoch mine = epoch theirs) :
      Step members epoch core
        { core with
          log := Function.update core.log server
            (store epoch (core.log server) position entry)
          acked := setPair core.acked server (core.term server)
            (max (core.acked server (core.term server)) (position + 1)) }

def Core.advance (core : Core S E) (server : S) (term : Nat) : Core S E :=
  { core with term := Function.update core.term server (max (core.term server) term) }

theorem Core.advance_step (members : Finset S) (epoch : E → Nat) (core : Core S E) (server : S)
    (term : Nat) : Step members epoch core (core.advance server term) :=
  .advance core server _ (Nat.le_max_left _ _)

@[simp] theorem Core.advance_self (core : Core S E) (server : S) (term : Nat) :
    (core.advance server term).term server = max (core.term server) term := by
  simp [Core.advance]

theorem Core.advance_other (core : Core S E) {server other : S} (term : Nat)
    (apart : other ≠ server) : (core.advance server term).term other = core.term other := by
  simp [Core.advance, apart]

end OpenNebula.Library.Consensus

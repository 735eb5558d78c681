import OpenNebula.Network.Resize
import OpenNebula.Network.RoundTrip

namespace OpenNebula.Network

open Common
open Library

/-! # What the search for free addresses finds (`AddressRangeInternal`)

The size of a range has 64 bits, and the searches take it to 32 bits.  They find every free address
and every free block below that number; addresses from there on are never looked at.  At the largest
number of 32 bits the search for a block goes round when it has come to the end of a free run.
-/

namespace AddressRange

variable {env : Environment} {ar : AddressRange} {allocated : Map Nat Nat} {arSize rsize : Nat}

section

variable (ar : AddressRange)

section

variable (next : Nat)

def getSingleAddr : Option Nat :=
  (singleLoop ar.allocated ar.arSize ar.arSize next).1

def FreeBlock (index rsize : Nat) : Prop :=
  index + rsize ≤ ar.size ∧ ∀ offset < rsize, index + offset ∉ ar.allocated

def FindsSingle : Prop :=
  match ar.getSingleAddr next with
  | some index => index < ar.size ∧ index ∉ ar.allocated
  | none => ∀ index < ar.size, index ∈ ar.allocated

/-- The search ends, with a free block if there is one. -/
def FindsBlock (rsize : Nat) : Prop :=
  ∃ turns result, rangeLoop ar.allocated ar.arSize rsize turns 0 = some result ∧
    match result with
    | some index => ar.FreeBlock index rsize
    | none => ∀ index, ¬ar.FreeBlock index rsize

def FollowerFree : Prop :=
  ∃ offset, offset + 1 < ar.arSize ∧ ((next + 1) % 2 ^ 32 + offset) % ar.arSize ∉ ar.allocated

/-- The lookup does not start at a free index behind the end; and when an address is free, so is one
that the lookup comes to. -/
def LooksEnough : Prop :=
  (next ∉ ar.allocated → ar.arSize = 0 ∨ next < ar.size) ∧
    ((∀ index < ar.size, index ∈ ar.allocated) ∨ (0 < ar.arSize ∧ (next ∉ ar.allocated ∨ ar.FollowerFree next)))

/-- There is a block below the size to 32 bits, at a free index. -/
def HasBlock (allocated : Map Nat Nat) (arSize rsize : Nat) : Prop :=
  ∃ index < arSize, index ∉ allocated ∧ index + rsize ≤ arSize ∧ ∀ offset < rsize, index + offset ∉ allocated

/-- When there is a free block, or the last address of a range of the largest size is free, there is a
block below the size to 32 bits. -/
def BlockBelow (rsize : Nat) : Prop :=
  ((∃ index, ar.FreeBlock index rsize) ∨ (ar.arSize = 2 ^ 32 - 1 ∧ ar.arSize - 1 ∉ ar.allocated)) →
    HasBlock ar.allocated ar.arSize rsize

theorem iterate_next {next : Nat} (word : arSize < 2 ^ 32) (positive : 0 < arSize) (turn : Nat) :
    (fun index => (index + 1) % 2 ^ 32 % arSize)^[turn + 1] next = ((next + 1) % 2 ^ 32 + turn) % arSize := by
  induction turn with
  | zero => rfl
  | succ turn ih =>
    rw [Function.iterate_succ_apply', ih]
    have below := Nat.mod_lt ((next + 1) % 2 ^ 32 + turn) positive
    rw [Nat.mod_eq_of_lt (show ((next + 1) % 2 ^ 32 + turn) % arSize + 1 < 2 ^ 32 by omega),
      Nat.mod_add_mod, Nat.add_assoc]

theorem getSingleAddr_none_iff :
    ar.getSingleAddr next = none ↔ ar.arSize = 0 ∨ (next ∈ ar.allocated ∧ ¬ar.FollowerFree next) := by
  have word : ar.arSize < 2 ^ 32 := Nat.mod_lt _ (by decide)
  rw [getSingleAddr, singleLoop_eq_find, List.find?_eq_none]
  simp only [List.mem_iterate, decide_eq_true_eq, not_not, forall_exists_index, and_imp]
  rcases Nat.eq_zero_or_pos ar.arSize with empty | positive
  · refine iff_of_true (fun _ turn inside => ?_) (.inl empty)
    omega
  · constructor
    · intro taken
      refine .inr ⟨taken next 0 positive rfl, ?_⟩
      rintro ⟨offset, inside, isFree⟩
      exact isFree (taken _ (offset + 1) inside (iterate_next word positive offset).symm)
    · rintro (empty | ⟨startTaken, none⟩) index turn inside isIndex
      · omega
      · cases turn with
        | zero => exact isIndex ▸ startTaken
        | succ turn =>
          rw [iterate_next word positive] at isIndex
          by_contra isFree
          exact none ⟨turn, inside, isIndex ▸ isFree⟩

theorem findsSingle_iff : ar.FindsSingle next ↔ ar.LooksEnough next := by
  have bounded := arSize_le ar
  have noneIff := getSingleAddr_none_iff ar next
  rw [FindsSingle, LooksEnough]
  cases found : ar.getSingleAddr next with
  | none =>
    obtain empty | ⟨startTaken, noFollower⟩ := noneIff.mp found
    · simp [empty]
    · simp [startTaken, noFollower]
  | some index =>
    have isFound : (singleLoop ar.allocated ar.arSize ar.arSize next).1 = some index := found
    have notNone : ¬(ar.arSize = 0 ∨ (next ∈ ar.allocated ∧ ¬ar.FollowerFree next)) := by
      rw [← noneIff, found]
      exact Option.some_ne_none index
    obtain ⟨notEmpty, seesFollower⟩ := not_or.1 notNone
    have positive := Nat.pos_of_ne_zero notEmpty
    have isFree : index ∉ ar.allocated := by
      have suits := isFound
      rw [singleLoop_eq_find] at suits
      simpa using List.find?_some suits
    by_cases startTaken : next ∈ ar.allocated
    · -- The lookup goes on inside the range.
      have apart : index ≠ next := fun same => isFree (same ▸ startTaken)
      have inside := (singleLoop_found positive isFound).resolve_left apart
      have follower : ar.FollowerFree next := not_not.1 fun noFollower => seesFollower ⟨startTaken, noFollower⟩
      exact iff_of_true ⟨by omega, isFree⟩
        ⟨fun startFree => absurd startTaken startFree, .inr ⟨positive, .inr follower⟩⟩
    · obtain ⟨turns, isTurns⟩ := Nat.exists_eq_succ_of_ne_zero notEmpty
      have same : next = index := by
        rw [isTurns, singleLoop, if_neg startTaken] at isFound
        exact Option.some.inj isFound
      rw [same]
      constructor
      · rintro ⟨inside, -⟩
        exact ⟨fun _ => .inr inside, .inr ⟨positive, .inl isFree⟩⟩
      · rintro ⟨starts, -⟩
        exact ⟨(starts isFree).resolve_left notEmpty, isFree⟩

end

end

variable {index : Nat}

theorem freeRun_failed {last : Nat} (ran : freeRun allocated arSize rsize index = (last, false)) :
    index ≤ last ∧ last < index + rsize ∧ (last ∈ allocated ∨ arSize ≤ last) := by
  induction rsize generalizing index with
  | zero => simp [freeRun] at ran
  | succ rsize ih =>
    rw [freeRun] at ran
    split at ran
    · rename_i stops
      obtain rfl := (Prod.mk.inj ran).1
      exact ⟨le_refl _, by omega, stops⟩
    · obtain ⟨atLeast, before, stops⟩ := ih ran
      exact ⟨by omega, by omega, stops⟩

theorem rangeLoop_start {turns start : Nat}
    (found : rangeLoop allocated arSize rsize turns start = some (some index)) : index < arSize ∧ index ∉ allocated := by
  induction turns generalizing start with
  | zero => cases found
  | succ turns ih =>
    rw [rangeLoop] at found
    split at found
    · cases found
    · rename_i inside
      split at found
      · exact ih found
      · rename_i startFree
        split at found
        · rename_i last ran
          have ended := (freeRun_found (by omega) ran).1
          have isIndex : last - rsize = index := Option.some.inj (Option.some.inj found)
          obtain rfl : start = index := by omega
          exact ⟨by omega, startFree⟩
        · exact ih found

theorem rangeLoop_hasBlock {turns : Nat} (found : rangeLoop allocated arSize rsize turns 0 = some (some index)) :
    HasBlock allocated arSize rsize := by
  obtain ⟨inside, isFree⟩ := rangeLoop_start found
  have fits := rangeLoop_found found
  exact ⟨index, inside, isFree, fits,
    fun offset small => (rangeLoop_free found _ (Nat.le_add_right _ _) (by omega)).1⟩

/-- Where a run that fails ends -/
theorem freeRun_stops {start last : Nat} (ran : freeRun allocated arSize rsize start = (last, false))
    (inside : start < arSize) : (last ∈ allocated ∧ last < arSize) ∨ (last = arSize ∧ arSize - 1 ∉ allocated) := by
  induction rsize generalizing start with
  | zero => simp [freeRun] at ran
  | succ rsize ih =>
    rw [freeRun] at ran
    split at ran
    · rename_i stops
      obtain rfl := (Prod.mk.inj ran).1
      exact .inl ⟨stops.resolve_right (by omega), inside⟩
    · rename_i isFree
      by_cases atEnd : start + 1 = arSize
      · cases rsize with
        | zero => simp [freeRun] at ran
        | succ rsize =>
          rw [freeRun, if_pos (.inr (by omega))] at ran
          refine .inr ⟨(Prod.mk.inj ran).1 ▸ atEnd, fun taken => isFree (.inl ?_)⟩
          rwa [← atEnd, Nat.add_sub_cancel] at taken
      · exact ih ran (by omega)

theorem rangeLoop_more {turns start : Nat} {result : Option Nat}
    (ended : rangeLoop allocated arSize rsize turns start = some result) (more : Nat) :
    rangeLoop allocated arSize rsize (turns + more) start = some result := by
  induction turns generalizing start with
  | zero => cases ended
  | succ turns ih =>
    rw [Nat.add_right_comm, rangeLoop]
    rw [rangeLoop] at ended
    split
    · rwa [if_pos ‹_›] at ended
    · rw [if_neg ‹_›] at ended
      split
      · rw [if_pos ‹_›] at ended
        exact ih ended
      · rw [if_neg ‹_›] at ended
        split
        · rename_i last ran
          rwa [ran] at ended
        · rename_i last ran
          rw [ran] at ended
          exact ih ended

/-- At the largest size with a free last address the loop does not come to the end of the range. -/
theorem rangeLoop_round {turns start : Nat} (largest : arSize = 2 ^ 32 - 1) (lastFree : arSize - 1 ∉ allocated)
    (inside : start < arSize) : rangeLoop allocated arSize rsize turns start ≠ some none := by
  induction turns generalizing start with
  | zero => simp [rangeLoop]
  | succ turns ih =>
    rw [rangeLoop, if_neg (by omega)]
    split
    · rename_i startTaken
      have notLast : start ≠ arSize - 1 := fun same => lastFree (same ▸ startTaken)
      exact ih (by omega)
    · split
      · simp
      · rename_i last ran
        obtain ⟨taken, lastInside⟩ | ⟨atEnd, -⟩ := freeRun_stops ran inside
        · have notLast : last ≠ arSize - 1 := fun same => lastFree (same ▸ taken)
          exact ih (by omega)
        · exact ih (by omega)

section

variable (word : arSize < 2 ^ 32)
include word

theorem rangeLoop_none {turns start : Nat} (none : rangeLoop allocated arSize rsize turns start = some none)
    (from_ : start ≤ index) (inside : index < arSize) (isFree : index ∉ allocated) (fits : index + rsize ≤ arSize) :
    ∃ offset < rsize, index + offset ∈ allocated := by
  induction turns generalizing start with
  | zero => cases none
  | succ turns ih =>
    rw [rangeLoop, if_neg (by omega)] at none
    split at none
    · rename_i startTaken
      have apart : index ≠ start := fun same => isFree (same ▸ startTaken)
      rw [Nat.mod_eq_of_lt (by omega)] at none
      exact ih none (by omega)
    · split at none
      · cases none
      · rename_i last ran
        obtain ⟨atLeast, ends, stops⟩ := freeRun_failed ran
        by_cases before : index ≤ last
        · have lastTaken : last ∈ allocated := stops.resolve_right (by omega)
          exact ⟨last - index, by omega, by rwa [Nat.add_sub_cancel' before]⟩
        · rw [Nat.mod_eq_of_lt (by omega)] at none
          exact ih none (by omega)

/-- Otherwise each turn goes on in the range. -/
theorem rangeLoop_ends {turns start : Nat} (ends : arSize = 2 ^ 32 - 1 → arSize - 1 ∈ allocated)
    (enough : arSize ≤ start + turns) : ∃ result, rangeLoop allocated arSize rsize (turns + 1) start = some result := by
  induction turns generalizing start with
  | zero =>
    rw [rangeLoop, if_pos (by omega)]
    exact ⟨none, rfl⟩
  | succ turns ih =>
    rw [rangeLoop]
    split
    · exact ⟨none, rfl⟩
    · split
      · exact ih (by omega)
      · split
        · rename_i last ran
          exact ⟨some (last - rsize), rfl⟩
        · rename_i last ran
          have atLeast := (freeRun_failed ran).1
          obtain ⟨-, lastInside⟩ | ⟨atEnd, lastFree⟩ := freeRun_stops ran (by omega)
          · exact ih (by omega)
          · have smaller : arSize ≠ 2 ^ 32 - 1 := fun largest => lastFree (ends largest)
            exact ih (by omega)

theorem rangeLoop_reaches {turns start : Nat} (from_ : start ≤ index) (inside : index < arSize)
    (isFree : index ∉ allocated) (fits : index + rsize ≤ arSize) (allFree : ∀ offset < rsize, index + offset ∉ allocated)
    (enough : index ≤ start + turns) : ∃ result, rangeLoop allocated arSize rsize (turns + 1) start = some result := by
  induction turns generalizing start with
  | zero =>
    obtain rfl : start = index := by omega
    rw [rangeLoop, if_neg (by omega), if_neg isFree]
    split
    · rename_i last ran
      exact ⟨some (last - rsize), rfl⟩
    · rename_i last ran
      obtain ⟨atLeast, ends, stops⟩ := freeRun_failed ran
      refine absurd (stops.resolve_right (by omega)) ?_
      rw [← Nat.add_sub_cancel' atLeast]
      exact allFree (last - start) (by omega)
  | succ turns ih =>
    rw [rangeLoop, if_neg (by omega)]
    split
    · rename_i startTaken
      have apart : index ≠ start := fun same => isFree (same ▸ startTaken)
      rw [Nat.mod_eq_of_lt (by omega)]
      exact ih (by omega) (by omega)
    · split
      · rename_i last ran
        exact ⟨some (last - rsize), rfl⟩
      · rename_i last ran
        obtain ⟨atLeast, ends, stops⟩ := freeRun_failed ran
        have before : last < index := by
          by_contra behind
          refine absurd (stops.resolve_right (by omega)) ?_
          rw [← Nat.add_sub_cancel' (Nat.not_lt.1 behind)]
          exact allFree (last - index) (by omega)
        rw [Nat.mod_eq_of_lt (by omega)]
        exact ih (by omega) (by omega)

theorem rangeLoop_ended
    (below : arSize = 2 ^ 32 - 1 ∧ arSize - 1 ∉ allocated → HasBlock allocated arSize rsize) :
    ∃ result, rangeLoop allocated arSize rsize (arSize + 1) 0 = some result := by
  by_cases round : arSize = 2 ^ 32 - 1 ∧ arSize - 1 ∉ allocated
  · obtain ⟨index, inside, isFree, fits, allFree⟩ := below round
    exact rangeLoop_reaches word (Nat.zero_le _) inside isFree fits allFree (by omega)
  · exact rangeLoop_ends word (fun largest => not_not.1 fun lastFree => round ⟨largest, lastFree⟩) (by omega)

end

/-- The turns of `get_range_addr` are enough for every search that ends. -/
theorem getRangeAddr_eq {ar : AddressRange} {turns : Nat} {result : Option Nat}
    (searched : rangeLoop ar.allocated ar.arSize rsize turns 0 = some result) : ar.getRangeAddr rsize = result := by
  have word : ar.arSize < 2 ^ 32 := Nat.mod_lt _ (by decide)
  obtain ⟨other, ended⟩ := @rangeLoop_ended ar.allocated ar.arSize rsize word fun round => by
    cases result with
    | some index => exact rangeLoop_hasBlock searched
    | none => exact absurd searched (rangeLoop_round round.1 round.2 (by omega))
  have longer := rangeLoop_more ended turns
  rw [Nat.add_comm, rangeLoop_more searched] at longer
  rw [getRangeAddr, ended, Option.join_some, Option.some.inj longer]

theorem findsBlock_iff (ar : AddressRange) (rsize : Nat) : ar.FindsBlock rsize ↔ ar.BlockBelow rsize := by
  have bounded := arSize_le ar
  have word : ar.arSize < 2 ^ 32 := Nat.mod_lt _ (by decide)
  constructor
  · rintro ⟨turns, result, searched, finds⟩ some
    cases result with
    | some index => exact rangeLoop_hasBlock searched
    | none =>
      obtain ⟨index, isBlock⟩ | ⟨largest, lastFree⟩ := some
      · exact absurd isBlock (finds index)
      · exact absurd searched (rangeLoop_round largest lastFree (by omega))
  · intro below
    obtain ⟨result, searched⟩ := rangeLoop_ended word fun round => below (.inr round)
    refine ⟨_, result, searched, ?_⟩
    cases result with
    | some index =>
      have fits := rangeLoop_found searched
      exact ⟨by omega, fun offset small => (rangeLoop_free searched _ (Nat.le_add_right _ _) (by omega)).1⟩
    | none =>
      intro index isBlock
      obtain ⟨first, inside, isFree, fits, allFree⟩ := below (.inl ⟨index, isBlock⟩)
      obtain ⟨offset, small, taken⟩ := rangeLoop_none word searched (Nat.zero_le _) inside isFree fits
      exact allFree offset small taken

/-- A search finds what there is exactly when it looks for it below the size to 32 bits. -/
theorem search_complete (ar : AddressRange) (next : Nat) : (ar.FindsSingle next ↔ ar.LooksEnough next) ∧
      ∀ rsize, ar.FindsBlock rsize ↔ ar.BlockBelow rsize :=
  ⟨findsSingle_iff ar next, findsBlock_iff ar⟩

/-- `AR = [ TYPE = "IP6_STATIC", IP6 = "2001:db8::", PREFIX_LENGTH = "96" ]` -/
def longPrefix : VectorAttribute :=
  (((∅ : VectorAttribute).replace "TYPE" "IP6_STATIC").replace "IP6" "2001:db8::").replace
    "PREFIX_LENGTH" "96"

def newRange6 : AddressRange := { id := 0, manager := .internal 0 }

/-- A new range with 2^32 addresses, of which none is found. -/
theorem search_longPrefix : ¬∀ (env : Environment) (blank : AddressRange) (attr : VectorAttribute),
      (blank.fromAttr env attr).2 = none → blank.manager = .internal 0 → (blank.fromAttr env attr).1.FindsSingle 0 ∧
          ∀ rsize, (blank.fromAttr env attr).1.FindsBlock rsize := by
  intro always
  have accepted : (newRange6.fromAttr documentationPrefix longPrefix).2 = none := by decide +kernel
  have isSize : (newRange6.fromAttr documentationPrefix longPrefix).1.size = 2 ^ 32 := by decide +kernel
  have unused : (newRange6.fromAttr documentationPrefix longPrefix).1.allocated = ∅ :=
    (fromAttr_keeps documentationPrefix newRange6 longPrefix).1
  have empty : (newRange6.fromAttr documentationPrefix longPrefix).1.arSize = 0 := by
    rw [arSize, isSize, Nat.mod_self]
  have finds := (always documentationPrefix newRange6 longPrefix accepted rfl).1
  rw [FindsSingle, (getSingleAddr_none_iff _ 0).mpr (.inl empty)] at finds
  have taken := finds 0 (by rw [isSize]; decide)
  rw [unused] at taken
  exact absurd taken (AList.notMem_empty 0)

end AddressRange

end OpenNebula.Network

import Mathlib.Logic.Relation
import OpenNebula.Library.Consensus.Model

set_option linter.unusedSectionVars false

namespace OpenNebula.Library.Consensus

/-! # Votes and log matching

Two invariants of every run: the votes of a term elect at most one leader, and a
log that holds an entry of an epoch agrees with the leader of that epoch up to
that entry.
-/

variable {S E : Type} [DecidableEq S] {members : Finset S} {epoch : E → Nat}
  {before after core : Core S E}

variable {left whole log : List E} {position term : Nat} {server : S} {reign : Reign S E}

theorem prefix_take {count : Nat} (isPrefix : left <+: whole) (short : left.length ≤ count) :
    left <+: whole.take count :=
  List.prefix_take_iff.2 ⟨isPrefix, short⟩

theorem take_eq_of_isPrefix {count : Nat} (isPrefix : left.take count <+: whole) (long : count ≤ left.length) :
    left.take count = whole.take count := by
  have taken := List.prefix_iff_eq_take.1 isPrefix
  rw [List.length_take, Nat.min_eq_left long] at taken
  exact taken

theorem getElem?_of_isPrefix (isPrefix : left <+: whole) (inside : position < left.length) :
    whole[position]? = left[position]? := by
  obtain ⟨rest, rfl⟩ := isPrefix
  exact List.getElem?_append_left inside

theorem length_lt_of_getElem? {entry : E} (found : log[position]? = some entry) : position < log.length :=
  (List.getElem?_eq_some_iff.1 found).1

theorem update_some {α β : Type} [DecidableEq α] {entries : α → Option β} {key other : α} {value found : β}
    (lookup : Function.update entries key (some value) other = some found) :
    other = key ∧ value = found ∨ other ≠ key ∧ entries other = some found := by
  by_cases same : other = key
  · rw [same, Function.update_self, Option.some.injEq] at lookup
    exact .inl ⟨same, lookup⟩
  · rw [Function.update_of_ne same] at lookup
    exact .inr ⟨same, lookup⟩

structure Votes (members : Finset S) (core : Core S E) : Prop where
  term : ∀ server term candidate, core.voted server term = some candidate →
    term ≤ core.term server ∧ term ≤ core.term candidate
  elected : ∀ term reign, core.reign term = some reign →
    ∃ quorum, Majority members quorum ∧ reign.leader ∈ quorum ∧
      ∀ voter ∈ quorum, core.voted voter term = some reign.leader

theorem Votes.start : Votes members (Core.start S E) where
  term := by intro server term candidate voted; cases voted
  elected := by intro term reign leads; cases leads

theorem Votes.winFree (votes : Votes members core) {quorum : Finset S}
    (free : core.voted server (core.term server) = none) (majority : Majority members quorum)
    (granted : ∀ voter ∈ quorum, voter ≠ server → core.voted voter (core.term server) = some server) :
    core.reign (core.term server) = none := by
  cases leads : core.reign (core.term server) with
  | none => rfl
  | some reign =>
    obtain ⟨other, otherMajority, leaderIn, otherVotes⟩ := votes.elected _ _ leads
    obtain ⟨shared, inQuorum, inOther⟩ := majority.intersect otherMajority
    have sharedVote := otherVotes shared inOther
    by_cases same : shared = server
    · rw [same, free] at sharedVote; cases sharedVote
    · rw [granted shared inQuorum same, Option.some.injEq] at sharedVote
      have own := otherVotes reign.leader leaderIn
      rw [← sharedVote, free] at own
      cases own

private theorem Votes.cast (votes : Votes members core) {candidate : S}
    (asked : core.term server ≤ core.term candidate) (free : core.voted server (core.term server) = none) :
    (∀ voter term choice, setPair core.voted server (core.term server) (some candidate) voter term = some choice →
        term ≤ core.term voter ∧ term ≤ core.term choice) ∧ ∀ voter term choice, core.voted voter term = some choice →
        setPair core.voted server (core.term server) (some candidate) voter term = some choice := by
  constructor
  · intro voter term choice voted
    rcases setPair_cases core.voted server (core.term server) (some candidate) voter term with
      ⟨rfl, rfl, cast⟩ | old
    · rw [cast, Option.some.injEq] at voted
      subst voted
      exact ⟨Nat.le_refl _, asked⟩
    · exact votes.term voter term choice (old ▸ voted)
  · intro voter term choice voted
    rcases setPair_cases core.voted server (core.term server) (some candidate) voter term with
      ⟨rfl, rfl, _⟩ | old
    · rw [free] at voted; cases voted
    · rw [old]; exact voted

theorem le_update_term (core : Core S E) (later : core.term server ≤ term) (other : S) :
    core.term other ≤ Function.update core.term server term other := by
  by_cases same : other = server
  · subst same; simpa using later
  · simp [same]

theorem Votes.step (votes : Votes members before) (stepped : Step members epoch before after) :
    Votes members after := by
  cases stepped with
  | advance server term later =>
    refine ⟨fun voter when choice voted => ?_, votes.elected⟩
    obtain ⟨byVoter, byChoice⟩ := votes.term voter when choice voted
    exact ⟨byVoter.trans (le_update_term before later voter), byChoice.trans (le_update_term before later choice)⟩
  | stand server term later =>
    refine ⟨fun voter when choice voted => ?_, votes.elected⟩
    obtain ⟨byVoter, byChoice⟩ := votes.term voter when choice voted
    exact ⟨byVoter.trans (le_update_term before later.le voter),
      byChoice.trans (le_update_term before later.le choice)⟩
  | grant server candidate apart asked free upToDate =>
    obtain ⟨bound, kept⟩ := votes.cast asked free
    refine ⟨bound, fun term reign leads => ?_⟩
    obtain ⟨quorum, majority, leaderIn, granted⟩ := votes.elected term reign leads
    exact ⟨quorum, majority, leaderIn, fun voter inside => kept _ _ _ (granted voter inside)⟩
  | win server quorum stood free majority self granted =>
    obtain ⟨bound, kept⟩ := votes.cast (Nat.le_refl _) free
    refine ⟨bound, fun term reign leads => ?_⟩
    rcases update_some leads with ⟨rfl, rfl⟩ | ⟨same, leads⟩
    · refine ⟨quorum, majority, self, fun voter inside => ?_⟩
      by_cases voterSelf : voter = server
      · subst voterSelf; simp
      · exact kept _ _ _ (granted voter inside voterSelf)
    · obtain ⟨others, otherMajority, leaderIn, otherVotes⟩ := votes.elected term reign leads
      exact ⟨others, otherMajority, leaderIn, fun voter inside => kept _ _ _ (otherVotes voter inside)⟩
  | append reign term entry leads current fresh =>
    refine ⟨votes.term, fun when found leadsAfter => ?_⟩
    rcases update_some leadsAfter with ⟨rfl, rfl⟩ | ⟨same, leadsAfter⟩
    · exact votes.elected when reign leads
    · exact votes.elected when found leadsAfter
  | accept server reign position entry leads apart present previous =>
    exact ⟨votes.term, votes.elected⟩

def Coherent (core : Core S E) (epoch : E → Nat) (log : List E) : Prop :=
  ∀ position entry, log[position]? = some entry →
    ∃ reign, core.reign (epoch entry) = some reign ∧ log.take (position + 1) <+: reign.log

theorem Coherent.ofPrefix {part : List E} (coherent : Coherent core epoch log) (isPrefix : part <+: log) :
    Coherent core epoch part := by
  intro position entry found
  have inside := length_lt_of_getElem? found
  obtain ⟨reign, leads, agrees⟩ := coherent position entry
    ((getElem?_of_isPrefix isPrefix inside).trans found)
  refine ⟨reign, leads, List.IsPrefix.trans ?_ agrees⟩
  exact prefix_take ((List.take_prefix _ _).trans isPrefix) (List.length_take_le _ _)

theorem Coherent.matching {right : List E} (coherentLeft : Coherent core epoch left)
    (coherentRight : Coherent core epoch right) {mine theirs : E} (foundLeft : left[position]? = some mine)
    (foundRight : right[position]? = some theirs) (same : epoch mine = epoch theirs) :
    left.take (position + 1) = right.take (position + 1) := by
  obtain ⟨reign, leads, agreesLeft⟩ := coherentLeft position mine foundLeft
  obtain ⟨reign', leads', agreesRight⟩ := coherentRight position theirs foundRight
  rw [same, leads', Option.some.injEq] at leads
  subst leads
  rw [take_eq_of_isPrefix agreesLeft (length_lt_of_getElem? foundLeft),
    take_eq_of_isPrefix agreesRight (length_lt_of_getElem? foundRight)]

structure Logs (epoch : E → Nat) (core : Core S E) : Prop where
  candTerm : ∀ server term log, core.cand server term = some log →
    term ≤ core.term server ∧ ∀ entry ∈ log, epoch entry < term
  candCoherent : ∀ server term log, core.cand server term = some log →
    Coherent core epoch log
  base : ∀ term reign, core.reign term = some reign →
    core.cand reign.leader term = some reign.base
  own : ∀ term reign, core.reign term = some reign → ∀ entry ∈ reign.own, epoch entry = term
  leaderLog : ∀ term reign, core.reign term = some reign → core.term reign.leader = term →
    core.log reign.leader = reign.log
  coherent : ∀ server, Coherent core epoch (core.log server)
  logTerm : ∀ server, ∀ entry ∈ core.log server, epoch entry ≤ core.term server
  ackBound : ∀ server term, core.acked server term ≠ 0 →
    term ≤ core.term server ∧
      ∃ reign, core.reign term = some reign ∧ core.acked server term ≤ reign.log.length

theorem Logs.start : Logs epoch (Core.start S E) where
  candTerm := by intro server term log stood; cases stood
  candCoherent := by intro server term log stood; cases stood
  base := by intro term reign leads; cases leads
  own := by intro term reign leads; cases leads
  leaderLog := by intro term reign leads; cases leads
  coherent := by intro server position entry found; simp [Core.start] at found
  logTerm := by intro server entry inside; simp [Core.start] at inside
  ackBound := by intro server term acked; simp [Core.start] at acked

theorem Logs.reignTerm (logs : Logs epoch core) (leads : core.reign term = some reign) :
    term ≤ core.term reign.leader :=
  (logs.candTerm _ _ _ (logs.base _ _ leads)).1

theorem Logs.reignEpoch (logs : Logs epoch core) (leads : core.reign term = some reign) :
    ∀ entry ∈ reign.log, epoch entry ≤ term := by
  intro entry inside
  rcases List.mem_append.1 inside with inBase | inOwn
  · exact ((logs.candTerm _ _ _ (logs.base _ _ leads)).2 entry inBase).le
  · exact (logs.own _ _ leads entry inOwn).le

theorem Logs.reignCoherent (logs : Logs epoch core) (leads : core.reign term = some reign) :
    Coherent core epoch reign.log := by
  intro position entry found
  by_cases inBase : position < reign.base.length
  · have foundBase : reign.base[position]? = some entry := by
      rw [← found]; exact (List.getElem?_append_left inBase).symm
    obtain ⟨older, leadsOlder, agrees⟩ := logs.candCoherent _ _ _ (logs.base _ _ leads) position entry foundBase
    refine ⟨older, leadsOlder, ?_⟩
    rwa [Reign.log, List.take_append_of_le_length (by omega)]
  · have foundOwn : reign.own[position - reign.base.length]? = some entry := by
      rw [← found]; exact (List.getElem?_append_right (by omega)).symm
    have epochEntry := logs.own _ _ leads entry (List.mem_of_getElem? foundOwn)
    exact ⟨reign, by rw [epochEntry]; exact leads, List.take_prefix _ _⟩

theorem store_spec {entry : E} (coherent : Coherent core epoch log)
    (coherentWhole : Coherent core epoch whole) (present : whole[position]? = some entry)
    (previous : ∀ before, position = before + 1 → ∃ mine theirs, log[before]? = some mine ∧
      whole[before]? = some theirs ∧ epoch mine = epoch theirs) :
    (store epoch log position entry = log ∧ log.take (position + 1) = whole.take (position + 1)) ∨
    (store epoch log position entry = whole.take (position + 1) ∧ log[position]? ≠ some entry) := by
  have agreesBefore : log.take position = whole.take position := by
    cases position with
    | zero => simp
    | succ before =>
      obtain ⟨mine, theirs, foundMine, foundTheirs, same⟩ := previous before rfl
      exact coherent.matching coherentWhole foundMine foundTheirs same
  have extended : log.take position ++ [entry] = whole.take (position + 1) := by
    rw [agreesBefore, List.take_add_one, present]
    rfl
  cases held : log[position]? with
  | none => exact .inr ⟨by simp [store, held, extended], by simp⟩
  | some mine =>
    by_cases same : epoch mine = epoch entry
    · exact .inl ⟨by simp [store, held, same],
        coherent.matching coherentWhole held present same⟩
    · refine .inr ⟨by simp [store, held, same, extended], ?_⟩
      intro equal
      exact same (congrArg epoch (Option.some.inj equal))

/-- What no step takes back. -/
structure Grows (before after : Core S E) : Prop where
  term : ∀ server, before.term server ≤ after.term server
  cand : ∀ server term log, before.cand server term = some log →
    after.cand server term = some log
  /-- nobody stands for election in a term it is in, or has left -/
  stood : ∀ server term, term ≤ before.term server → after.cand server term = before.cand server term
  voted : ∀ server term choice, before.voted server term = some choice →
    after.voted server term = some choice
  reign : ∀ term reign, before.reign term = some reign →
    ∃ own, after.reign term = some { reign with own := reign.own ++ own }
  acked : ∀ server term, before.acked server term ≤ after.acked server term

theorem Grows.refl (core : Core S E) : Grows core core :=
  ⟨fun _ => Nat.le_refl _, fun _ _ _ => id, fun _ _ _ => rfl, fun _ _ _ => id,
    fun _ reign leads => ⟨[], by simpa using leads⟩, fun _ _ => Nat.le_refl _⟩

theorem Grows.trans {first second third : Core S E} (left : Grows first second)
    (right : Grows second third) : Grows first third where
  term := fun server => (left.term server).trans (right.term server)
  cand := fun server term log stood => right.cand _ _ _ (left.cand _ _ _ stood)
  stood := fun server term past =>
    (right.stood server term (past.trans (left.term server))).trans (left.stood server term past)
  voted := fun server term choice voted => right.voted _ _ _ (left.voted _ _ _ voted)
  reign := by
    intro term reign leads
    obtain ⟨own, leadsSecond⟩ := left.reign term reign leads
    obtain ⟨more, leadsThird⟩ := right.reign term _ leadsSecond
    exact ⟨own ++ more, by simpa [List.append_assoc] using leadsThird⟩
  acked := fun server term => (left.acked server term).trans (right.acked server term)

theorem Grows.reignLog (grows : Grows before after) (leads : before.reign term = some reign) :
    ∃ later, after.reign term = some later ∧ later.leader = reign.leader ∧
      later.base = reign.base ∧ reign.log <+: later.log := by
  obtain ⟨own, leadsAfter⟩ := grows.reign term reign leads
  exact ⟨_, leadsAfter, rfl, rfl, ⟨own, by simp [Reign.log, List.append_assoc]⟩⟩

theorem Coherent.grows (coherent : Coherent before epoch log) (grows : Grows before after) :
    Coherent after epoch log := by
  intro position entry found
  obtain ⟨reign, leads, agrees⟩ := coherent position entry found
  obtain ⟨later, leadsAfter, _, _, extended⟩ := grows.reignLog leads
  exact ⟨later, leadsAfter, agrees.trans extended⟩

theorem Grows.step (votes : Votes members before) (stepped : Step members epoch before after)
    (logs : Logs epoch before) : Grows before after := by
  have same := Grows.refl before
  cases stepped with
  | advance server term later =>
    exact { same with term := le_update_term before later }
  | stand server term later =>
    refine { same with term := le_update_term before later.le, cand := ?_, stood := ?_ }
    · intro other when log stood
      rcases setPair_cases before.cand server term (some (before.log server)) other when with
        ⟨rfl, rfl, _⟩ | old
      · exact absurd (logs.candTerm _ _ _ stood).1 (by omega)
      · simp only [old]; exact stood
    · intro other when past
      rcases setPair_cases before.cand server term (some (before.log server)) other when with
        ⟨rfl, rfl, _⟩ | old
      · exact absurd past (by omega)
      · exact old
  | grant server candidate apart asked free upToDate =>
    exact { same with voted := (votes.cast asked free).2 }
  | win server quorum stood free majority self granted =>
    have unled := votes.winFree free majority granted
    refine { same with voted := (votes.cast (Nat.le_refl _) free).2, reign := ?_, acked := ?_ }
    · intro term reign leads
      have apart : term ≠ before.term server := by
        rintro rfl; rw [unled] at leads; cases leads
      exact ⟨[], by simp [Function.update_of_ne apart, leads]⟩
    · intro other when
      rcases setPair_cases before.acked server (before.term server)
        (before.log server).length other when with ⟨rfl, rfl, new⟩ | old
      · have unacked : before.acked other (before.term other) = 0 := by
          by_contra acked
          obtain ⟨_, reign, leads, _⟩ := logs.ackBound _ _ acked
          rw [unled] at leads
          cases leads
        simp only [unacked]
        exact Nat.zero_le _
      · simp only [old]; exact Nat.le_refl _
  | append reign term entry leads current fresh =>
    refine { same with reign := ?_, acked := ?_ }
    · intro when found leadsFound
      by_cases sameTerm : when = term
      · subst sameTerm
        rw [leads, Option.some.injEq] at leadsFound
        subst leadsFound
        exact ⟨[entry], by simp⟩
      · exact ⟨[], by simp [Function.update_of_ne sameTerm, leadsFound]⟩
    · intro other when
      rcases setPair_cases before.acked reign.leader term (reign.log.length + 1) other when with
        ⟨rfl, rfl, new⟩ | old
      · simp only [new]
        by_cases acked : before.acked reign.leader when = 0
        · omega
        · obtain ⟨_, found, leadsFound, bound⟩ := logs.ackBound _ _ acked
          rw [leads, Option.some.injEq] at leadsFound
          subst leadsFound
          omega
      · simp only [old]; exact Nat.le_refl _
  | accept server reign position entry leads apart present previous =>
    refine { same with acked := ?_ }
    intro other when
    rcases setPair_cases before.acked server (before.term server)
      (max (before.acked server (before.term server)) (position + 1)) other when with
      ⟨rfl, rfl, new⟩ | old
    · simp only [new]; exact Nat.le_max_left _ _
    · simp only [old]; exact Nat.le_refl _

/-- Only the leader's own steps and the acceptance of an entry change a log; the
new log is again coherent and within the server's term. -/
theorem Logs.step (votes : Votes members before) (logs : Logs epoch before)
    (stepped : Step members epoch before after) : Logs epoch after := by
  have grows := Grows.step votes stepped logs
  have coherent := fun server => (logs.coherent server).grows grows
  have candCoherent := fun server term log stood =>
    (logs.candCoherent server term log stood).grows grows
  cases stepped with
  | advance server term later =>
    refine { logs with
      candTerm := fun other when log stood =>
        ⟨(logs.candTerm other when log stood).1.trans (grows.term other), (logs.candTerm other when log stood).2⟩
      candCoherent := candCoherent
      leaderLog := ?_
      coherent := coherent
      logTerm := fun other entry inside => (logs.logTerm other entry inside).trans (grows.term other)
      ackBound := fun other when acked =>
        ⟨(logs.ackBound other when acked).1.trans (grows.term other), (logs.ackBound other when acked).2⟩ }
    intro when reign leads current
    refine logs.leaderLog when reign leads ?_
    have lower := logs.reignTerm leads
    have upper := grows.term reign.leader
    simp only at current upper
    omega
  | stand server term later =>
    refine { logs with
      candTerm := ?_
      candCoherent := ?_
      base := fun when reign leads => grows.cand _ _ _ (logs.base when reign leads)
      leaderLog := ?_
      coherent := coherent
      logTerm := fun other entry inside => (logs.logTerm other entry inside).trans (grows.term other)
      ackBound := fun other when acked =>
        ⟨(logs.ackBound other when acked).1.trans (grows.term other), (logs.ackBound other when acked).2⟩ }
    · intro other when log stood
      rcases setPair_cases before.cand server term (some (before.log server)) other when with
        ⟨rfl, rfl, new⟩ | old
      · simp only [new, Option.some.injEq] at stood
        subst stood
        refine ⟨by simp, fun entry inside => ?_⟩
        exact Nat.lt_of_le_of_lt (logs.logTerm other entry inside) later
      · simp only [old] at stood
        exact ⟨(logs.candTerm other when log stood).1.trans (grows.term other),
          (logs.candTerm other when log stood).2⟩
    · intro other when log stood
      rcases setPair_cases before.cand server term (some (before.log server)) other when with
        ⟨rfl, rfl, new⟩ | old
      · simp only [new, Option.some.injEq] at stood
        subst stood
        exact coherent other
      · simp only [old] at stood
        exact candCoherent other when log stood
    · intro when reign leads current
      refine logs.leaderLog when reign leads ?_
      have lower := logs.reignTerm leads
      have upper := grows.term reign.leader
      simp only at current upper
      omega
  | grant server candidate apart asked free upToDate =>
    exact { logs with candCoherent := candCoherent, coherent := coherent }
  | win server quorum stood free majority self granted =>
    refine { logs with
      candCoherent := candCoherent
      base := ?_
      own := ?_
      leaderLog := ?_
      coherent := coherent
      ackBound := ?_ }
    · intro term reign leads
      rcases update_some leads with ⟨rfl, rfl⟩ | ⟨same, leads⟩
      · exact stood
      · exact logs.base term reign leads
    · intro term reign leads entry inside
      rcases update_some leads with ⟨rfl, rfl⟩ | ⟨same, leads⟩
      · simp at inside
      · exact logs.own term reign leads entry inside
    · intro term reign leads current
      rcases update_some leads with ⟨rfl, rfl⟩ | ⟨same, leads⟩
      · simp [Reign.log]
      · exact logs.leaderLog term reign leads current
    · intro other when acked
      rcases setPair_cases before.acked server (before.term server)
        (before.log server).length other when with ⟨rfl, rfl, new⟩ | old
      · exact ⟨Nat.le_refl _, ⟨_, Function.update_self .., by simp [Reign.log]⟩⟩
      · simp only [old] at acked ⊢
        obtain ⟨bound, reign, leads, short⟩ := logs.ackBound other when acked
        obtain ⟨own, leadsAfter⟩ := grows.reign when reign leads
        exact ⟨bound, _, leadsAfter, short.trans (by simp [Reign.log])⟩
  | append reign term entry leads current fresh =>
    have wholeLog := logs.leaderLog term reign leads current
    refine { logs with
      candCoherent := candCoherent
      base := ?_
      own := ?_
      leaderLog := ?_
      coherent := ?_
      logTerm := ?_
      ackBound := ?_ }
    · intro when found leadsFound
      rcases update_some leadsFound with ⟨rfl, rfl⟩ | ⟨same, leadsFound⟩
      · exact logs.base when reign leads
      · exact logs.base when found leadsFound
    · intro when found leadsFound item inside
      rcases update_some leadsFound with ⟨rfl, rfl⟩ | ⟨same, leadsFound⟩
      · rcases List.mem_append.1 inside with old | new
        · exact logs.own when reign leads item old
        · rw [List.mem_singleton.1 new]; exact fresh
      · exact logs.own when found leadsFound item inside
    · intro when found leadsFound currentFound
      rcases update_some leadsFound with ⟨rfl, rfl⟩ | ⟨same, leadsFound⟩
      · simp [wholeLog, Reign.log, List.append_assoc]
      · have other : found.leader ≠ reign.leader := by
          intro sameLeader
          simp only [sameLeader, current] at currentFound
          exact same currentFound.symm
        simp only [Function.update_of_ne other]
        exact logs.leaderLog when found leadsFound currentFound
    · intro server
      by_cases same : server = reign.leader
      · subst same
        simp only [Function.update_self]
        intro position item found
        by_cases old : position < (before.log reign.leader).length
        · rw [List.getElem?_append_left old] at found
          obtain ⟨older, leadsOlder, agrees⟩ := coherent reign.leader position item found
          exact ⟨older, leadsOlder, by rwa [List.take_append_of_le_length (by omega)]⟩
        · have last : position = (before.log reign.leader).length := by
            have bound := length_lt_of_getElem? found
            simp only [List.length_append, List.length_singleton] at bound
            omega
          subst last
          rw [List.getElem?_concat_length, Option.some.injEq] at found
          subst found
          refine ⟨{ reign with own := reign.own ++ [entry] }, by simp [fresh],
            (List.take_prefix _ _).trans ?_⟩
          rw [wholeLog]
          simp [Reign.log, List.append_assoc]
      · simp only [Function.update_of_ne same]
        exact coherent server
    · intro server item inside
      by_cases same : server = reign.leader
      · subst same
        simp only [Function.update_self] at inside
        rcases List.mem_append.1 inside with old | new
        · exact logs.logTerm _ item old
        · rw [List.mem_singleton.1 new, fresh]; exact current.ge
      · simp only [Function.update_of_ne same] at inside
        exact logs.logTerm server item inside
    · intro other when acked
      rcases setPair_cases before.acked reign.leader term (reign.log.length + 1) other when with
        ⟨rfl, rfl, new⟩ | old
      · exact ⟨current.ge, _, Function.update_self .., by
          simp only [Reign.log, List.length_append, setPair_self, List.length_cons, List.length_nil]
          omega⟩
      · simp only [old] at acked ⊢
        obtain ⟨bound, found, leadsFound, short⟩ := logs.ackBound other when acked
        obtain ⟨own, leadsAfter⟩ := grows.reign when found leadsFound
        exact ⟨bound, _, leadsAfter, short.trans (by simp [Reign.log])⟩
  | accept server reign position entry leads apart present previous =>
    have stored := store_spec (logs.coherent server) (logs.reignCoherent leads) present previous
    refine { logs with
      candCoherent := candCoherent
      leaderLog := ?_
      coherent := ?_
      logTerm := ?_
      ackBound := ?_ }
    · intro when found leadsFound current
      have other : found.leader ≠ server := by
        rintro rfl
        rw [← current, leads, Option.some.injEq] at leadsFound
        exact apart (congrArg Reign.leader leadsFound).symm
      simp only [Function.update_of_ne other]
      exact logs.leaderLog when found leadsFound current
    · intro other
      by_cases same : other = server
      · subst same
        simp only [Function.update_self]
        rcases stored with ⟨kept, _⟩ | ⟨cut, _⟩
        · rw [kept]; exact coherent other
        · rw [cut]
          exact ((logs.reignCoherent leads).grows grows).ofPrefix (List.take_prefix _ _)
      · simp only [Function.update_of_ne same]
        exact coherent other
    · intro other item inside
      by_cases same : other = server
      · subst same
        simp only [Function.update_self] at inside
        rcases stored with ⟨kept, _⟩ | ⟨cut, _⟩
        · rw [kept] at inside; exact logs.logTerm other item inside
        · rw [cut] at inside
          exact logs.reignEpoch leads item (List.mem_of_mem_take inside)
      · simp only [Function.update_of_ne same] at inside
        exact logs.logTerm other item inside
    · intro other when acked
      rcases setPair_cases before.acked server (before.term server)
        (max (before.acked server (before.term server)) (position + 1)) other when with
        ⟨rfl, rfl, new⟩ | old
      · refine ⟨Nat.le_refl _, reign, leads, ?_⟩
        simp only [new]
        refine Nat.max_le.2 ⟨?_, length_lt_of_getElem? present⟩
        by_cases none : before.acked other (before.term other) = 0
        · omega
        · obtain ⟨_, found, leadsFound, short⟩ := logs.ackBound _ _ none
          rw [leads, Option.some.injEq] at leadsFound
          subst leadsFound
          exact short
      · simp only [old] at acked ⊢
        exact logs.ackBound other when acked

structure Invariant (members : Finset S) (epoch : E → Nat) (core : Core S E) : Prop where
  votes : Votes members core
  logs : Logs epoch core

theorem Invariant.start : Invariant members epoch (Core.start S E) := ⟨Votes.start, Logs.start⟩

theorem Invariant.step (inv : Invariant members epoch before)
    (stepped : Step members epoch before after) : Invariant members epoch after :=
  ⟨inv.votes.step stepped, inv.logs.step inv.votes stepped⟩

theorem Invariant.run (inv : Invariant members epoch before)
    (ran : Relation.ReflTransGen (Step members epoch) before after) :
    Invariant members epoch after ∧ Grows before after := by
  induction ran with
  | refl => exact ⟨inv, Grows.refl _⟩
  | tail _ stepped ih =>
    exact ⟨ih.1.step stepped, ih.2.trans (Grows.step ih.1.votes stepped ih.1.logs)⟩

end OpenNebula.Library.Consensus

import OpenNebula.Cognit.ClustersIdsGet

namespace OpenNebula.Cognit

variable {Angle Distance : Type}

/-! # Which clusters a requirement document gets -/

namespace Cluster

variable (cluster : Cluster)

def text (key : String) : Option String :=
  match get cluster.template key with
  | .text text => some text
  | .nested => none

def Marked : Prop := ∃ mark ∈ cluster.text "IS_CONFIDENTIAL", isTrue mark = true

def Bare : Prop := cluster.text "IS_CONFIDENTIAL" = some ""

instance : Decidable cluster.Marked := inferInstanceAs (Decidable (∃ mark ∈ _, _))

theorem text_eq_some {key text : String} : cluster.text key = some text ↔ get cluster.template key = .text text := by
  unfold Cluster.text
  split <;> simp_all

end Cluster

namespace AppRequirements

variable (requirements : AppRequirements Angle) (cluster : Cluster)

def Confidential : Prop := requirements.isConfidential = some true

def providerList : List String := requirements.providers.getD []

def Listed : Prop := ∃ flavours ∈ cluster.text "FLAVOURS", requirements.flavour ∈ parts flavours

def Permitted : Prop :=
  requirements.providerList = [] ∨ ∃ provider ∈ cluster.text "PROVIDER", provider ∈ requirements.providerList

/-- The cluster meets the requirements. -/
structure Eligible : Prop where
  listed : requirements.Listed cluster
  marked : requirements.Confidential → cluster.Marked
  permitted : requirements.Permitted cluster

instance : Decidable requirements.Confidential := inferInstanceAs (Decidable (_ = _))

instance : Decidable (requirements.Permitted cluster) :=
  inferInstanceAs (Decidable (_ ∨ ∃ provider ∈ _, _))

end AppRequirements

namespace Platform

variable (platform : Platform Angle Distance)

/-- The coordinates of a valid `GEOLOCATION` -/
def location (cluster : Cluster) : Option (Angle × Angle) :=
  (cluster.text "GEOLOCATION").bind fun text => (platform.parseGeolocation text).filter platform.inBounds

def InBounds (requirements : AppRequirements Angle) : Prop :=
  ∃ device ∈ requirements.geolocation, platform.inBounds device = true

structure Enforced [LinearOrder Distance] (requirements : AppRequirements Angle) (pool : ClusterPool)
    (ids : List Nat) : Prop where
  sound : ∀ id ∈ ids, ∃ cluster ∈ pool.clusters, cluster.id = id ∧ requirements.Eligible cluster
  complete : ∀ cluster ∈ pool.clusters, requirements.Eligible cluster →
    (platform.location cluster).isSome → cluster.id ∈ ids
  once : ids.Nodup
  ordered : ids.Pairwise fun id other => ∀ cluster ∈ pool.clusters, ∀ next ∈ pool.clusters,
    cluster.id = id → next.id = other → ∀ device ∈ requirements.geolocation,
      ∀ point ∈ platform.location cluster, ∀ further ∈ platform.location next,
        platform.distance device point ≤ platform.distance device further

/-- A text spells a list of providers as a list literal, by its parts between commas when it is no
literal, or as a literal of another type. -/
inductive Spells (items : List String) (form : String) : Prop where
  | literal (nonempty : form ≠ "") (read : platform.literalEval form = .ok (.list (items.map .text)))
  | commas (read : platform.literalEval form = .error .malformed) (same : parts form = items)
  | other (read : platform.literalEval form = .ok .other)

structure ReadBack (requirements : AppRequirements Angle) (document : Document) : Prop where
  flavour : document.get "FLAVOUR" = some requirements.flavour
  isConfidential : document.get "IS_CONFIDENTIAL" = some (boolText requirements.isConfidential)
  providers : ∃ form ∈ document.get "PROVIDERS", platform.Spells requirements.providerList form
  geolocation : ∃ text ∈ document.get "GEOLOCATION", platform.parseGeolocation text = requirements.geolocation
  capacity : document.get "MAX_CAPACITY" = none

/-- The list of providers is spelt as a literal that is no list. -/
def Dropped (document : Document) : Prop :=
  ∃ form ∈ document.get "PROVIDERS", platform.literalEval form = .ok .other

/-- What Python promises of the numbers and the lists that it writes for the requirements -/
structure Writes (writer : Writer Angle) (requirements : AppRequirements Angle) : Prop where
  number : ∀ point ∈ requirements.geolocation, ∀ angle ∈ [point.1, point.2],
    platform.float (strip (writer.str angle)) = some angle ∧ ',' ∉ (writer.str angle).toList
  noNumber : platform.parseGeolocation "None" = none
  repr : ∀ items ∈ requirements.providers, writer.repr items ≠ "" ∧
    platform.literalEval (writer.repr items) = .ok (.list (items.map .text))
  noList : platform.literalEval "None" = .ok .other

theorem splitOn_pair {left right : List Char} (leftPlain : ',' ∉ left) (rightPlain : ',' ∉ right) :
    (left ++ ',' :: right).splitOn ',' = [left, right] := by
  rw [List.splitOn_append_cons_self, List.splitOn_eq_singleton leftPlain, List.splitOn_eq_singleton rightPlain]
  rfl

/-- What the frontend stores is read back. -/
theorem readBack_document {writer : Writer Angle} {requirements : AppRequirements Angle}
    (writes : platform.Writes writer requirements) :
    platform.ReadBack requirements (requirements.document writer) where
  flavour := rfl
  isConfidential := rfl
  providers := by
    cases given : requirements.providers with
    | none =>
      refine ⟨"None", ?_, .other writes.noList⟩
      simp [Document.get, AppRequirements.document, List.lookup_cons, given]
    | some items =>
      refine ⟨writer.repr items, ?_, ?_⟩
      · simp [Document.get, AppRequirements.document, List.lookup_cons, given]
      · obtain ⟨nonempty, read⟩ := writes.repr items given
        exact .literal nonempty (by simpa [AppRequirements.providerList, given] using read)
  geolocation := by
    cases given : requirements.geolocation with
    | none => exact ⟨"None", by simp [Document.get, AppRequirements.document, List.lookup_cons, given], writes.noNumber⟩
    | some point =>
      obtain ⟨latitude, longitude⟩ := point
      refine ⟨String.ofList ((writer.str latitude).toList ++ ',' :: (writer.str longitude).toList), ?_, ?_⟩
      · simp [Document.get, AppRequirements.document, List.lookup_cons, given]
      · have first := writes.number _ given latitude (by simp)
        have second := writes.number _ given longitude (by simp)
        unfold parseGeolocation split
        rw [String.toList_ofList, splitOn_pair first.2 second.2]
        simp [first.1, second.1]
  capacity := rfl

structure Stands (requirements : AppRequirements Angle) (document : Document) (request : Request Angle) :
    Prop where
  device : request.device = requirements.geolocation
  known : requirements.geolocation.isSome
  flavour : request.flavour = some requirements.flavour
  isConfidential : request.isConfidential = some (decide requirements.Confidential)
  dropped : platform.Dropped document → request.providers = []
  kept : ¬ platform.Dropped document → request.providers = requirements.providerList.map .text
  targetCardinality : request.targetCardinality = none

theorem isTrue_boolText (mark : Option Bool) : isTrue (boolText mark) = decide (mark = some true) := by
  rcases mark with _ | _ | _ <;> decide

theorem requestedProviders_spells {items : List String} {form : String} {read : List Item}
    (spells : platform.Spells items form) (found : platform.requestedProviders (some (.text form)) = .ok read) :
    (platform.literalEval form = .ok .other → read = []) ∧
      (platform.literalEval form ≠ .ok .other → read = items.map .text) := by
  cases spells with
  | literal nonempty literal =>
    have plain : Item.unhashable ∉ items.map Item.text := by simp
    simp only [requestedProviders, nonempty, if_false, literal, plain] at found
    cases found
    simp [literal]
  | commas malformed same =>
    simp only [requestedProviders, malformed] at found
    split at found
    next empty =>
      cases found
      subst empty
      have none : items = [] := by rw [← same]; decide
      simp [none]
    next => cases found; simp [malformed, same]
  | other literal =>
    simp only [requestedProviders, literal] at found
    split at found <;> (cases found; simp [literal])

variable {platform}
variable {requirements : AppRequirements Angle} {document : Document}

variable {request : Request Angle} {cluster : Cluster}

theorem stands_of_request {arguments : Arguments} (readBack : platform.ReadBack requirements document)
    (geolocation : arguments.geolocation = document.get "GEOLOCATION")
    (flavour : arguments.flavour = document.get "FLAVOUR")
    (isConfidential : arguments.isConfidential = document.get "IS_CONFIDENTIAL")
    (providers : arguments.providers = (document.get "PROVIDERS").map .text)
    (targetCardinality : arguments.targetCardinality = none)
    (found : platform.request arguments = .ok request) : platform.Stands requirements document request := by
  obtain ⟨place, hasPlace, coords⟩ := readBack.geolocation
  obtain ⟨form, hasForm, spells⟩ := readBack.providers
  have placed : document.get "GEOLOCATION" = some place := hasPlace
  have formed : document.get "PROVIDERS" = some form := hasForm
  rw [placed] at geolocation
  rw [formed] at providers
  rw [readBack.flavour] at flavour
  rw [readBack.isConfidential] at isConfidential
  unfold Platform.request at found
  rw [geolocation, providers] at found
  simp only [deviceGeolocation, coords] at found
  cases known : requirements.geolocation with
  | none => rw [known] at found; cases found
  | some device =>
    rw [known] at found
    cases read : platform.requestedProviders (some (.text form)) with
    | error error => simp only [Option.map_some, read] at found; cases found
    | ok items =>
      simp only [Option.map_some, read] at found
      cases found
      have fromForm := requestedProviders_spells platform spells read
      have droppedIff : platform.Dropped document ↔ platform.literalEval form = .ok .other := by
        unfold Dropped
        rw [formed]
        simp
      exact {
        device := known.symm
        known := by rw [known]; rfl
        flavour := flavour
        isConfidential := by rw [isConfidential]; exact congrArg some (isTrue_boolText _)
        dropped := fun dropped => fromForm.1 (droppedIff.1 dropped)
        kept := fun kept => fromForm.2 fun other => kept (droppedIff.2 other)
        targetCardinality := by rw [targetCardinality]; rfl }

section Filters

variable {request : Request Angle} {cluster : Cluster} {passes : Bool}

section

variable (stands : platform.Stands requirements document request)
include stands

theorem flavourPasses_iff (found : flavourPasses request cluster.template = .ok passes) :
    passes = true ↔ requirements.Listed cluster := by
  unfold flavourPasses at found
  split at found
  next => cases found
  next flavours read =>
    cases found
    have text := Cluster.text_eq_some cluster |>.2 read
    simp [AppRequirements.Listed, text, stands.flavour]

theorem confidentialPasses_iff (found : confidentialPasses request cluster.template = .ok passes) :
    passes = true ↔ cluster.Bare ∨ (requirements.Confidential ↔ cluster.Marked) := by
  unfold confidentialPasses at found
  rw [stands.isConfidential] at found
  simp only at found
  split at found
  next => cases found
  next mark read =>
    cases found
    have text := Cluster.text_eq_some cluster |>.2 read
    have marked : cluster.Marked ↔ isTrue mark = true := by simp [Cluster.Marked, text]
    have bare : cluster.Bare ↔ mark = "" := by simp [Cluster.Bare, text]
    rw [marked, bare]
    by_cases confidential : requirements.Confidential <;> cases isTrue mark <;> simp [confidential]

theorem providerPasses_iff (found : providerPasses request cluster.template = .ok passes) :
    passes = true ↔ platform.Dropped document ∨ requirements.Permitted cluster := by
  unfold providerPasses at found
  by_cases dropped : platform.Dropped document
  · rw [if_pos (stands.dropped dropped)] at found
    cases found
    simp [dropped]
  · rw [stands.kept dropped] at found
    unfold AppRequirements.Permitted
    by_cases empty : requirements.providerList = []
    · rw [empty] at found ⊢
      cases found
      simp
    · have nonempty : requirements.providerList.map Item.text ≠ [] := by simpa using empty
      rw [if_neg nonempty] at found
      split at found
      next => cases found
      next provider read =>
        cases found
        have text := Cluster.text_eq_some cluster |>.2 read
        simp [text, dropped, empty]

theorem cardinalityPasses_eq : platform.cardinalityPasses request cluster.template = .ok true := by
  unfold cardinalityPasses
  rw [stands.targetCardinality]

theorem distanceTo_eq_some {distance : Distance} : platform.distanceTo request cluster.template = some distance ↔
      ∃ device ∈ requirements.geolocation, platform.inBounds device = true ∧
        ∃ point ∈ platform.location cluster, platform.distance device point = distance := by
  have blank : platform.parseGeolocation "" = none := rfl
  unfold distanceTo
  rw [stands.device]
  unfold location Cluster.text
  cases get cluster.template "GEOLOCATION" with
  | nested => simp
  | text text =>
    by_cases empty : text = ""
    · subst empty
      simp [blank]
    · simp only [empty, if_false, Option.bind_some]
      cases platform.parseGeolocation text with
      | none => simp
      | some point =>
        cases requirements.geolocation with
        | none => simp
        | some device =>
          cases inDevice : platform.inBounds device <;> cases inPoint : platform.inBounds point <;>
            simp [haversine, inDevice, inPoint, Option.filter]

end

end Filters

variable (platform requirements document) in
structure Accepted (cluster : Cluster) : Prop where
  listed : requirements.Listed cluster
  marked : cluster.Bare ∨ (requirements.Confidential ↔ cluster.Marked)
  permitted : platform.Dropped document ∨ requirements.Permitted cluster
  located : (platform.location cluster).isSome
  inBounds : platform.InBounds requirements

theorem visit_eq_some {entry : Nat × Distance} (found : platform.visit request cluster = .ok (some entry)) :
    flavourPasses request cluster.template = .ok true ∧ confidentialPasses request cluster.template = .ok true ∧
      providerPasses request cluster.template = .ok true ∧
      platform.distanceTo request cluster.template = some entry.2 ∧ entry.1 = cluster.id := by
  unfold visit at found
  rcases flavour : flavourPasses request cluster.template with error | _ | _ <;> rw [flavour] at found
  case error | ok.false => cases found
  rcases confidential : confidentialPasses request cluster.template with error | _ | _ <;>
    rw [confidential] at found
  case error | ok.false => cases found
  rcases provider : providerPasses request cluster.template with error | _ | _ <;> rw [provider] at found
  case error | ok.false => cases found
  rcases cardinality : platform.cardinalityPasses request cluster.template with error | _ | _ <;>
    rw [cardinality] at found
  case error | ok.false => cases found
  have last : (platform.distanceTo request cluster.template).map (fun distance => (cluster.id, distance)) =
      some entry := Except.ok.inj found
  obtain ⟨distance, reached, same⟩ := Option.map_eq_some_iff.1 last
  subst same
  exact ⟨rfl, rfl, rfl, reached, rfl⟩

theorem visit_eq_none (found : platform.visit request cluster = .ok none) :
    flavourPasses request cluster.template = .ok false ∨ confidentialPasses request cluster.template = .ok false ∨
      providerPasses request cluster.template = .ok false ∨
      platform.cardinalityPasses request cluster.template = .ok false ∨
      platform.distanceTo request cluster.template = none := by
  unfold visit at found
  rcases flavour : flavourPasses request cluster.template with error | _ | _ <;> rw [flavour] at found
  case error => cases found
  case ok.false => exact .inl rfl
  rcases confidential : confidentialPasses request cluster.template with error | _ | _ <;>
    rw [confidential] at found
  case error => cases found
  case ok.false => exact .inr (.inl rfl)
  rcases provider : providerPasses request cluster.template with error | _ | _ <;> rw [provider] at found
  case error => cases found
  case ok.false => exact .inr (.inr (.inl rfl))
  rcases cardinality : platform.cardinalityPasses request cluster.template with error | _ | _ <;>
    rw [cardinality] at found
  case error => cases found
  case ok.false => exact .inr (.inr (.inr (.inl rfl)))
  have last : (platform.distanceTo request cluster.template).map (fun distance => (cluster.id, distance)) =
      none := Except.ok.inj found
  exact .inr (.inr (.inr (.inr (Option.map_eq_none_iff.1 last))))

theorem visit_isSome_iff {entry : Option (Nat × Distance)} (stands : platform.Stands requirements document request)
    (found : platform.visit request cluster = .ok entry) :
    entry.isSome ↔ platform.Accepted requirements document cluster := by
  cases entry with
  | some entry =>
    obtain ⟨flavour, confidential, provider, reached, -⟩ := visit_eq_some found
    obtain ⟨device, known, inside, point, located, -⟩ := (distanceTo_eq_some stands).1 reached
    refine iff_of_true rfl ⟨?_, ?_, ?_, ?_, device, known, inside⟩
    · exact (flavourPasses_iff stands flavour).1 rfl
    · exact (confidentialPasses_iff stands confidential).1 rfl
    · exact (providerPasses_iff stands provider).1 rfl
    · exact Option.isSome_of_mem located
  | none =>
    refine iff_of_false (by simp) fun accepted => ?_
    rcases visit_eq_none found with flavour | confidential | provider | cardinality | reached
    · simpa using (flavourPasses_iff stands flavour).2 accepted.listed
    · simpa using (confidentialPasses_iff stands confidential).2 accepted.marked
    · simpa using (providerPasses_iff stands provider).2 accepted.permitted
    · rw [cardinalityPasses_eq stands] at cardinality
      cases cardinality
    · obtain ⟨device, known, inside⟩ := accepted.inBounds
      obtain ⟨point, located⟩ := Option.isSome_iff_exists.1 accepted.located
      have kept := (distanceTo_eq_some stands).2 ⟨device, known, inside, point, located, rfl⟩
      rw [reached] at kept
      cases kept

theorem mem_clusterDistances {clusters : List Cluster} {entries : List (Nat × Distance)}
    (found : platform.clusterDistances request clusters = .ok entries) (entry : Nat × Distance) :
    entry ∈ entries ↔ ∃ cluster ∈ clusters, platform.visit request cluster = .ok (some entry) := by
  induction clusters generalizing entries with
  | nil => cases found; simp
  | cons cluster rest hypothesis =>
    unfold clusterDistances at found
    cases first : platform.visit request cluster with
    | error error => rw [first] at found; cases found
    | ok kept =>
      rw [first] at found
      cases later : platform.clusterDistances request rest with
      | error error => rw [later] at found; cases found
      | ok others =>
        rw [later] at found
        cases found
        rw [List.mem_append, hypothesis later, Option.mem_toList]
        simp [first]

theorem clusterDistances_ids {clusters : List Cluster} {entries : List (Nat × Distance)}
    (found : platform.clusterDistances request clusters = .ok entries) :
    (entries.map Prod.fst).Sublist (clusters.map Cluster.id) ∧
      ∀ cluster ∈ clusters, ∃ kept, platform.visit request cluster = .ok kept := by
  induction clusters generalizing entries with
  | nil => cases found; simp
  | cons cluster rest hypothesis =>
    unfold clusterDistances at found
    cases first : platform.visit request cluster with
    | error error => rw [first] at found; cases found
    | ok kept =>
      rw [first] at found
      cases later : platform.clusterDistances request rest with
      | error error => rw [later] at found; cases found
      | ok others =>
        rw [later] at found
        cases found
        obtain ⟨sublist, visited⟩ := hypothesis later
        refine ⟨?_, List.forall_mem_cons.2 ⟨⟨kept, first⟩, visited⟩⟩
        cases kept with
        | none => exact sublist.cons _
        | some entry =>
          have same : entry.1 = cluster.id := (visit_eq_some first).2.2.2.2
          simpa [same] using sublist

section Sorted

variable [LinearOrder Distance] {pool : ClusterPool} {ids : List Nat}

theorem clustersIdsGet_eq_ok {arguments : Arguments} (found : platform.clustersIdsGet pool arguments = .ok ids) :
    ∃ request entries, platform.request arguments = .ok request ∧
      platform.clusterDistances request pool.clusters = .ok entries ∧
      ids = (entries.insertionSort fun entry other => entry.2 ≤ other.2).map Prod.fst := by
  unfold clustersIdsGet at found
  cases read : platform.request arguments with
  | error error => rw [read] at found; cases found
  | ok request =>
    rw [read] at found
    cases looped : platform.clusterDistances request pool.clusters with
    | error error => simp only [bind, Except.bind, looped] at found; cases found
    | ok entries =>
      simp only [bind, Except.bind, looped] at found
      exact ⟨request, entries, rfl, looped, (Except.ok.inj found).symm⟩

theorem cluster_unique {cluster other : Cluster} (member : cluster ∈ pool.clusters)
    (otherMember : other ∈ pool.clusters) (same : cluster.id = other.id) : cluster = other :=
  List.inj_on_of_nodup_map pool.ids_nodup member otherMember same

theorem returned_ids {request : Request Angle} {entries : List (Nat × Distance)}
    (stands : platform.Stands requirements document request)
    (looped : platform.clusterDistances request pool.clusters = .ok entries)
    (sorted : ids = (entries.insertionSort fun entry other => entry.2 ≤ other.2).map Prod.fst) :
    (∀ id, id ∈ ids ↔ ∃ cluster ∈ pool.clusters, cluster.id = id ∧
        platform.Accepted requirements document cluster) ∧ ids.Nodup := by
  have shuffled := List.perm_insertionSort (fun entry other : Nat × Distance => entry.2 ≤ other.2) entries
  have visited := clusterDistances_ids looped
  refine ⟨fun id => ?_, ?_⟩
  · subst sorted
    rw [(shuffled.map Prod.fst).mem_iff, List.mem_map]
    constructor
    · rintro ⟨entry, member, rfl⟩
      obtain ⟨cluster, inPool, kept⟩ := (mem_clusterDistances looped entry).1 member
      exact ⟨cluster, inPool, (visit_eq_some kept).2.2.2.2.symm, (visit_isSome_iff stands kept).1 rfl⟩
    · rintro ⟨cluster, inPool, rfl, accepted⟩
      obtain ⟨kept, found⟩ := visited.2 cluster inPool
      obtain ⟨entry, rfl⟩ := Option.isSome_iff_exists.1 ((visit_isSome_iff stands found).2 accepted)
      exact ⟨entry, (mem_clusterDistances looped entry).2 ⟨cluster, inPool, found⟩, (visit_eq_some found).2.2.2.2⟩
  · subst sorted
    exact ((shuffled.map Prod.fst).nodup_iff).2 (visited.1.nodup pool.ids_nodup)

theorem returned_ordered {request : Request Angle} {entries : List (Nat × Distance)}
    (stands : platform.Stands requirements document request)
    (looped : platform.clusterDistances request pool.clusters = .ok entries)
    (sorted : ids = (entries.insertionSort fun entry other => entry.2 ≤ other.2).map Prod.fst) :
    ids.Pairwise fun id other => ∀ cluster ∈ pool.clusters, ∀ next ∈ pool.clusters,
      cluster.id = id → next.id = other → ∀ device ∈ requirements.geolocation,
        ∀ point ∈ platform.location cluster, ∀ further ∈ platform.location next,
          platform.distance device point ≤ platform.distance device further := by
  have shuffled := List.perm_insertionSort (fun entry other : Nat × Distance => entry.2 ≤ other.2) entries
  have ascending : (entries.insertionSort fun entry other => entry.2 ≤ other.2).Pairwise
      fun entry other => entry.2 ≤ other.2 := List.pairwise_insertionSort _ _
  -- the distance of an entry is the one of the cluster with its identifier
  have distances : ∀ entry ∈ entries, ∀ cluster ∈ pool.clusters, cluster.id = entry.1 →
      ∀ device ∈ requirements.geolocation, ∀ point ∈ platform.location cluster,
        entry.2 = platform.distance device point := by
    intro entry member cluster inPool same device known point located
    obtain ⟨found, foundInPool, kept⟩ := (mem_clusterDistances looped entry).1 member
    obtain ⟨-, -, -, reached, named⟩ := visit_eq_some kept
    have equal : found = cluster := cluster_unique foundInPool inPool (by rw [← named, same])
    subst equal
    obtain ⟨origin, given, -, target, placed, measured⟩ := (distanceTo_eq_some stands).1 reached
    rw [Option.mem_unique known given, Option.mem_unique located placed, measured]
  subst sorted
  refine List.pairwise_map.2 (ascending.imp_of_mem ?_)
  intro entry other entryIn otherIn below cluster inPool next nextIn same nextSame device known
    point located further furtherLocated
  rw [← distances entry (shuffled.mem_iff.1 entryIn) cluster inPool same device known point located,
    ← distances other (shuffled.mem_iff.1 otherIn) next nextIn nextSame device known further furtherLocated]
  exact below

inductive Caller where
  | frontend
  | optimizer

variable (platform) in
def idsFor (pool : ClusterPool) (document : Document) : Caller → Except PyError (List Nat)
  | .frontend => platform.edgeClusterFrontendIds pool document
  | .optimizer => platform.getFeasibleClustersForDevice pool document

variable (platform requirements document pool) in
/-- No cluster slips through or is left out.  A cluster with the flavour and a valid location is
considered when its provider is one of the list; it must have a mark of its own when confidentiality
is requested, and none that is true otherwise. -/
structure Covered : Prop where
  reached : ∀ cluster ∈ pool.clusters, requirements.Eligible cluster →
    (platform.location cluster).isSome → platform.InBounds requirements
  marked : platform.InBounds requirements → ∀ cluster ∈ pool.clusters, requirements.Listed cluster →
    (platform.location cluster).isSome → requirements.Permitted cluster →
      if requirements.Confidential then ¬ cluster.Bare else ¬ cluster.Marked
  restricted : platform.InBounds requirements → platform.Dropped document → ∀ cluster ∈ pool.clusters,
    requirements.Listed cluster → (platform.location cluster).isSome →
      requirements.Permitted cluster ∨
        (¬ cluster.Bare ∧ ¬ (requirements.Confidential ↔ cluster.Marked))

theorem idsFor_eq_ok (readBack : platform.ReadBack requirements document) {caller : Caller}
    (found : platform.idsFor pool document caller = .ok ids) :
    ∃ request entries, platform.Stands requirements document request ∧
      platform.clusterDistances request pool.clusters = .ok entries ∧
      ids = (entries.insertionSort fun entry other => entry.2 ≤ other.2).map Prod.fst := by
  obtain ⟨place, hasPlace, -⟩ := readBack.geolocation
  have placed : document.get "GEOLOCATION" = some place := hasPlace
  cases caller with
  | frontend =>
    unfold idsFor edgeClusterFrontendIds Document.require at found
    rw [placed, readBack.flavour, readBack.capacity] at found
    obtain ⟨request, entries, read, looped, sorted⟩ := clustersIdsGet_eq_ok found
    refine ⟨request, entries, ?_, looped, sorted⟩
    exact stands_of_request readBack placed.symm readBack.flavour.symm rfl rfl (by simp) read
  | optimizer =>
    have nonempty : document ≠ [] := by
      rintro rfl
      cases placed
    unfold idsFor getFeasibleClustersForDevice at found
    rw [if_neg nonempty] at found
    obtain ⟨request, entries, read, looped, sorted⟩ := clustersIdsGet_eq_ok found
    exact ⟨request, entries, stands_of_request readBack rfl rfl rfl rfl rfl read, looped, sorted⟩

omit [LinearOrder Distance] in
theorem covered_iff : platform.Covered requirements document pool ↔ ∀ cluster ∈ pool.clusters,
      (platform.Accepted requirements document cluster → requirements.Eligible cluster) ∧
      (requirements.Eligible cluster → (platform.location cluster).isSome →
        platform.Accepted requirements document cluster) := by
  have bareUnmarked : ∀ cluster : Cluster, cluster.Bare → ¬ cluster.Marked := by
    rintro cluster bare ⟨mark, given, true⟩
    cases given.symm.trans bare
    exact absurd true (by decide)
  constructor
  · intro covered cluster inPool
    constructor
    · intro accepted
      have permitted : requirements.Permitted cluster := by
        rcases accepted.permitted with dropped | permitted
        · rcases covered.restricted accepted.inBounds dropped cluster inPool accepted.listed
            accepted.located with permitted | ⟨notBare, differs⟩
          · exact permitted
          · exact absurd accepted.marked (not_or.2 ⟨notBare, differs⟩)
        · exact permitted
      have marks := covered.marked accepted.inBounds cluster inPool accepted.listed accepted.located permitted
      refine ⟨accepted.listed, fun confidential => ?_, permitted⟩
      rw [if_pos confidential] at marks
      exact (accepted.marked.resolve_left marks).1 confidential
    · intro eligible located
      have inBounds := covered.reached cluster inPool eligible located
      have marks := covered.marked inBounds cluster inPool eligible.listed located eligible.permitted
      refine ⟨eligible.listed, .inr ⟨eligible.marked, fun marked => ?_⟩, .inr eligible.permitted, located, inBounds⟩
      by_contra confidential
      rw [if_neg confidential] at marks
      exact marks marked
  · intro agree
    refine ⟨fun cluster inPool eligible located => ((agree cluster inPool).2 eligible located).inBounds,
      fun inBounds cluster inPool listed located permitted => ?_,
      fun inBounds dropped cluster inPool listed located => ?_⟩
    · split
      next confidential =>
        intro bare
        have eligible := (agree cluster inPool).1 ⟨listed, .inl bare, .inr permitted, located, inBounds⟩
        exact bareUnmarked cluster bare (eligible.marked confidential)
      next confidential =>
        intro marked
        have accepted := (agree cluster inPool).2 ⟨listed, fun wanted => absurd wanted confidential, permitted⟩
          located
        rcases accepted.marked with bare | same
        · exact bareUnmarked cluster bare marked
        · exact confidential (same.2 marked)
    · by_cases permitted : requirements.Permitted cluster
      · exact .inl permitted
      · refine .inr (not_or.1 fun passes => permitted ?_)
        exact ((agree cluster inPool).1 ⟨listed, passes, .inl dropped, located, inBounds⟩).permitted

theorem requirements_enforced_iff (readBack : platform.ReadBack requirements document) {caller : Caller}
    (found : platform.idsFor pool document caller = .ok ids) :
    platform.Enforced requirements pool ids ↔ platform.Covered requirements document pool := by
  obtain ⟨request, entries, stands, looped, sorted⟩ := idsFor_eq_ok readBack found
  obtain ⟨returned, once⟩ := returned_ids stands looped sorted
  have ordered := returned_ordered stands looped sorted
  rw [covered_iff]
  constructor
  · intro enforced cluster inPool
    constructor
    · intro accepted
      obtain ⟨other, otherIn, same, eligible⟩ :=
        enforced.sound cluster.id ((returned _).2 ⟨cluster, inPool, rfl, accepted⟩)
      rwa [cluster_unique otherIn inPool same] at eligible
    · intro eligible located
      obtain ⟨other, otherIn, same, accepted⟩ := (returned _).1 (enforced.complete cluster inPool eligible located)
      rwa [cluster_unique otherIn inPool same] at accepted
  · intro agree
    refine ⟨fun id member => ?_, fun cluster inPool eligible located => ?_, once, ordered⟩
    · obtain ⟨cluster, inPool, same, accepted⟩ := (returned id).1 member
      exact ⟨cluster, inPool, same, (agree cluster inPool).1 accepted⟩
    · exact (returned _).2 ⟨cluster, inPool, rfl, (agree cluster inPool).2 eligible located⟩

end Sorted

/-- Coordinates and distances as far as the examples below need them -/
def origin : Platform Int Nat where
  float := fun text => if text = "0.0" ∨ text = "0" then some 0 else none
  int := fun _ => none
  literalEval := fun text =>
    if text = "None" then .ok .other
    else if text = "['provider_1']" then .ok (.list [.text "provider_1"])
    else .error .malformed
  inBounds := fun point => decide (-90 ≤ point.1 ∧ point.1 ≤ 90 ∧ -180 ≤ point.2 ∧ point.2 ≤ 180)
  distance := fun point other => (point.1 - other.1).natAbs + (point.2 - other.2).natAbs

def confidentialNature : AppRequirements Int where
  id := some "device"
  isConfidential := some true
  providers := some ["provider_1"]
  flavour := "Nature"
  geolocation := some (0, 0)

def originWriter : Writer Int where
  str := fun _ => "0.0"
  repr := fun _ => "['provider_1']"

def confidentialNatureDocument : Document := confidentialNature.document originWriter

def natureTemplate (mark : List (String × Attr)) : List (String × Attr) :=
  [("FLAVOURS", .text "Nature, Energy"), ("PROVIDER", .text "provider_1"), ("GEOLOCATION", .text "0,0")] ++ mark

def natureCluster (mark : List (String × Attr)) : ClusterPool where
  clusters := [⟨100, natureTemplate mark⟩]
  ids_nodup := by simp

theorem confidentialNature_readBack : origin.ReadBack confidentialNature confidentialNatureDocument := by
  refine origin.readBack_document ⟨?_, by decide, ?_, by decide⟩
  · rintro point isPoint angle isAngle
    obtain rfl := Option.some.inj isPoint
    obtain rfl : angle = 0 := by simpa using isAngle
    exact ⟨by decide, by decide⟩
  · rintro items isItems
    obtain rfl := Option.some.inj isItems
    exact ⟨by decide, by decide⟩

theorem requirements_enforced_iff_marked :
    origin.Enforced confidentialNature (natureCluster [("IS_CONFIDENTIAL", .text "TRUE")]) [100] ↔
      origin.Covered confidentialNature confidentialNatureDocument
        (natureCluster [("IS_CONFIDENTIAL", .text "TRUE")]) := by
  have found : origin.idsFor (natureCluster [("IS_CONFIDENTIAL", .text "TRUE")]) confidentialNatureDocument .optimizer =
      .ok [100] := by decide
  exact requirements_enforced_iff confidentialNature_readBack found

theorem confidential_unmarked : origin.ReadBack confidentialNature confidentialNatureDocument ∧
      origin.idsFor (natureCluster []) confidentialNatureDocument .frontend = .ok [100] ∧
      origin.idsFor (natureCluster []) confidentialNatureDocument .optimizer = .ok [100] ∧
      ¬ origin.Enforced confidentialNature (natureCluster []) [100] := by
  refine ⟨confidentialNature_readBack, by decide, by decide, fun enforced => ?_⟩
  obtain ⟨cluster, inPool, -, eligible⟩ := enforced.sound 100 (by simp)
  obtain rfl := List.mem_singleton.1 inPool
  exact absurd (eligible.marked (by decide)) (by decide)

end Platform

end OpenNebula.Cognit

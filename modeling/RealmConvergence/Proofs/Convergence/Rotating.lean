import RealmConvergence.Proofs.Convergence.Coverage
import RealmConvergence.Proofs.Convergence.Provenance
import RealmConvergence.Proofs.Convergence.Recounting

/-!
# A new secret is one write

A client that is there already may differ from what is desired in its fields, in its secret, or in
both. Whoever replies, its turn first reads the stored secret, where one is desired (`ReadsSecret`),
and then sends one write at most (`SendsOnce`): the fields that differ, along with a new secret, or
the new secret alone. So a secret is neither sent twice nor lost between the two writes, and a
missing secret, an empty one and one that is not desired are told apart (`RotatesInOneWrite`).

In a run, every turn of a client keeps to this, and the report of a finished run has a step for the
secret exactly where its turn has sent it (`apply_rotates_in_one_write`).
-/

set_option autoImplicit false

namespace RealmConvergence.Convergence

open Dialogue (Course)

/-! ## Calls about a secret -/

/-- The calls that are made, in order. -/
def callsOf (exchanges : Transcript) : List AdminCall := exchanges.map Sigma.fst

/-- Whether a call reads the secret of a client. -/
def readsSecret (call : AdminCall) : Bool := call.operation == .getClientSecret

/-- Whether a call changes a client that is there already. -/
def changesClient (call : AdminCall) : Bool :=
  call.operation == .updateClient || call.operation == .updateClientSecret

/-- The secret that a call gives to a client that is there already. -/
def sentSecret? : AdminCall → Option String
  | .updateClient _ _ record => record.secret
  | .updateClientSecret _ _ secret => some secret
  | _ => none

/-- A secret is sent to a client that is there already. -/
def SendsSecret (exchanges : Transcript) : Prop :=
  ∃ call ∈ callsOf exchanges, (sentSecret? call).isSome

section Turn

variable {realm key : String} {current : ClientRecord} {desired : Blueprint.Client}

/-- A secret is desired, and what was read as the stored one is another or none. -/
def Differs (realm key : String) (desired : Blueprint.Client) (turn : Transcript)
    (secret : String) : Prop :=
  desired.secret = some secret ∧
    ∃ stored, ⟨.getClientSecret realm key, .ok stored⟩ ∈ turn ∧ stored ≠ some secret

/-- In the turn of a client that is there already, the stored secret is read where one is desired,
and one write at most is sent. -/
structure RotatesInOneWrite (realm key : String) (current : ClientRecord)
    (desired : Blueprint.Client) (isWhole : Bool) (turn : Transcript) : Prop where
  /-- The stored secret is read once where one is desired, and otherwise never. -/
  reads : (callsOf turn).filter readsSecret =
    if desired.secret.isSome then [.getClientSecret realm key] else []
  /-- At most one call changes the client. -/
  once : ((callsOf turn).filter changesClient).length ≤ 1
  /-- A turn that is not finished ends in a call that failed. -/
  stops : isWhole = false → ∃ exchange ∈ turn, exchange.2.isOk = false
  /-- The client is updated exactly where fields differ, with these fields, and with the secret
  exactly where that differs too. -/
  updates : isWhole = true → ∀ name id record, .updateClient name id record ∈ callsOf turn ↔
    name = realm ∧ id = key ∧ changedFields (clientPatch current desired) ≠ [] ∧
      { record with secret := none } = clientPatch current desired ∧
        ∀ secret, record.secret = some secret ↔ Differs realm key desired turn secret
  /-- The secret is written alone exactly where it differs and no field does. -/
  rotates : isWhole = true → ∀ name id secret, .updateClientSecret name id secret ∈ callsOf turn ↔
    name = realm ∧ id = key ∧ changedFields (clientPatch current desired) = [] ∧
      Differs realm key desired turn secret

/-! ## The turn of a client -/

/-- What is exchanged to find out whether the secret differs. -/
inductive ReadsSecret (realm key : String) (desired : Blueprint.Client) :
    Transcript → Bool → Prop where
  /-- None is desired. -/
  | undesired (nothing : desired.secret = none) : ReadsSecret realm key desired [] false
  /-- The stored one is read. -/
  | read {secret : String} {stored : Option String} (given : desired.secret = some secret) :
      ReadsSecret realm key desired [⟨.getClientSecret realm key, .ok stored⟩]
        (decide (stored ≠ some secret))

/-- What is sent once it is known whether the secret differs, and whether the turn gets to its
end. -/
inductive SendsOnce (realm key : String) (current : ClientRecord) (desired : Blueprint.Client) :
    Bool → Bool → Transcript → Prop where
  /-- Nothing differs. -/
  | nothing (same : changedFields (clientPatch current desired) = []) :
      SendsOnce realm key current desired false true []
  /-- Only the secret differs. -/
  | secretAlone {secret : String} {reply : (AdminCall.updateClientSecret realm key secret).Reply}
      {isWhole : Bool} (same : changedFields (clientPatch current desired) = [])
      (given : desired.secret = some secret) (ended : reply.isOk = isWhole) :
      SendsOnce realm key current desired true isWhole
        [⟨.updateClientSecret realm key secret, reply⟩]
  /-- Fields differ, and perhaps the secret; what follows is about a grant. -/
  | fields {differs isWhole : Bool} {record : ClientRecord}
      {reply : (AdminCall.updateClient realm key record).Reply} {granting : Transcript}
      (changed : changedFields (clientPatch current desired) ≠ [])
      (sent : record = { clientPatch current desired with
        secret := if differs then desired.secret else none })
      (ofGrant : ∀ exchange ∈ granting, OfGrant exchange.1) (ended : reply.isOk = isWhole) :
      SendsOnce realm key current desired differs isWhole
        (⟨.updateClient realm key record, reply⟩ :: granting)

theorem leads_secretDiffers :
    Leads (secretDiffers realm key desired) fun exchanges outcome =>
      (∃ problem failure, desired.secret.isSome ∧ outcome = .error failure ∧
        exchanges = [⟨.getClientSecret realm key, .error problem⟩]) ∨
      ∃ differs, outcome = .ok differs ∧ ReadsSecret realm key desired exchanges differs := by
  unfold secretDiffers
  split
  · next nothing => exact leads_pure (.inr ⟨false, rfl, .undesired nothing⟩)
  · next secret given =>
    refine leads_explained_bind (fun problem => .inl ⟨problem, _, ?_, rfl, rfl⟩) fun stored => ?_
    · rw [given]
      rfl
    · exact leads_pure (.inr ⟨_, rfl, .read given⟩)

theorem ReadsSecret.isSome {reading : Transcript} {differs : Bool}
    (reads : ReadsSecret realm key desired reading differs) (isDifferent : differs = true) :
    desired.secret.isSome := by
  cases reads with
  | undesired nothing => cases isDifferent
  | read given => exact Option.isSome_of_eq_some given

/-- What is sent, and that there is a step for the secret exactly if it differs. -/
def Sends (realm key : String) (current : ClientRecord) (desired : Blueprint.Client)
    (differs : Bool) (exchanges : Transcript) (outcome : Except Failure Findings) : Prop :=
  SendsOnce realm key current desired differs outcome.isOk exchanges ∧
    ∀ found, outcome = .ok found →
      ((.clientSecret, desired.clientId) ∈ found.subjects ↔ differs = true)

theorem sends_rotateSecret {differs : Bool} (given : differs = true → desired.secret.isSome)
    (same : changedFields (clientPatch current desired) = []) :
    Leads (rotateSecret realm key desired differs) (Sends realm key current desired differs) := by
  unfold rotateSecret
  cases differs with
  | false =>
      refine leads_pure ⟨.nothing same, ?_⟩
      rintro found ⟨⟩
      simp
  | true =>
      obtain ⟨secret, isGiven⟩ := Option.isSome_iff_exists.1 (given rfl)
      simp only [isGiven]
      refine leads_explained_bind (fun problem => ⟨.secretAlone same isGiven rfl, nofun⟩) fun _ =>
        leads_pure ⟨.secretAlone same isGiven rfl, ?_⟩
      rintro found ⟨⟩
      exact ⟨fun _ => rfl, fun _ => List.mem_cons_of_mem _ List.mem_cons_self⟩

theorem sends_updateClient (differs : Bool)
    (changed : changedFields (clientPatch current desired) ≠ []) :
    Leads (updateClient realm key desired (clientPatch current desired) differs)
      (Sends realm key current desired differs) := by
  have sent : (if differs then { clientPatch current desired with secret := desired.secret }
      else clientPatch current desired) = { clientPatch current desired with
        secret := if differs then desired.secret else none } := by
    cases differs <;> rfl
  have alone : ∀ exchange ∈ ([] : Transcript), OfGrant exchange.1 :=
    fun _ never => absurd never List.not_mem_nil
  refine leads_explained_bind (fun problem => ⟨.fields changed sent alone rfl, nofun⟩) fun _ => ?_
  refine leads_grantIf (leads_of_asks asks_grantRoles_ofGrant) _ ?_
    fun granting outcome ofGrant => ?_
  · refine ⟨.fields changed sent alone rfl, ?_⟩
    rintro found ⟨⟩
    cases differs <;> simp
  · refine ⟨.fields changed sent ofGrant rfl, ?_⟩
    rintro found ⟨⟩
    cases differs <;> simp [subjects_grantFindings]

/-! ## What the turn shows -/

theorem ReadsSecret.calls {reading : Transcript} {differs : Bool}
    (reads : ReadsSecret realm key desired reading differs) :
    callsOf reading = if desired.secret.isSome then [.getClientSecret realm key] else [] := by
  cases reads with
  | undesired nothing => rw [nothing]; rfl
  | read given => rw [given]; rfl

/-- What a grant exchanges is no matter of secrets or of fields. -/
theorem quiet_of_ofGrant {call : AdminCall} (ofGrant : OfGrant call) :
    readsSecret call = false ∧ changesClient call = false := by
  simp only [OfGrant, grantOperations, List.mem_cons, List.not_mem_nil, or_false] at ofGrant
  rcases ofGrant with operation | operation | operation | operation <;>
    simp [readsSecret, changesClient, operation]

theorem quiet_granting {granting : Transcript} (ofGrant : ∀ exchange ∈ granting, OfGrant exchange.1)
    {call : AdminCall} (member : call ∈ callsOf granting) :
    readsSecret call = false ∧ changesClient call = false := by
  obtain ⟨exchange, exchanged, rfl⟩ := List.mem_map.1 member
  exact quiet_of_ofGrant (ofGrant exchange exchanged)

namespace SendsOnce

variable {differs isWhole : Bool} {sending : Transcript}

/-- Nothing is read any more. -/
theorem reads (sends : SendsOnce realm key current desired differs isWhole sending) :
    (callsOf sending).filter readsSecret = [] := by
  refine List.filter_eq_nil_iff.2 fun call member => ?_
  cases sends with
  | nothing same => cases member
  | secretAlone same given ended =>
      cases List.mem_singleton.1 member
      exact Bool.false_ne_true
  | fields changed sent ofGrant ended =>
      rcases List.mem_cons.1 member with rfl | later
      · exact Bool.false_ne_true
      · rw [(quiet_granting ofGrant later).1]
        exact Bool.false_ne_true

theorem once (sends : SendsOnce realm key current desired differs isWhole sending) :
    ((callsOf sending).filter changesClient).length ≤ 1 := by
  cases sends with
  | nothing same => exact Nat.zero_le 1
  | secretAlone same given ended => exact Nat.le_refl 1
  | @fields _ _ record reply granting changed sent ofGrant ended =>
      have quiet : (callsOf granting).filter changesClient = [] :=
        List.filter_eq_nil_iff.2 fun call member => by simp [(quiet_granting ofGrant member).2]
      show ((AdminCall.updateClient realm key record :: callsOf granting).filter _).length ≤ 1
      rw [List.filter_cons_of_pos rfl, quiet]
      exact Nat.le_refl 1

theorem stops (sends : SendsOnce realm key current desired differs isWhole sending)
    (unfinished : isWhole = false) : ∃ exchange ∈ sending, exchange.2.isOk = false := by
  cases sends with
  | nothing same => cases unfinished
  | secretAlone same given ended => exact ⟨_, List.mem_cons_self, ended.trans unfinished⟩
  | fields changed sent ofGrant ended => exact ⟨_, List.mem_cons_self, ended.trans unfinished⟩

theorem updates_iff (sends : SendsOnce realm key current desired differs isWhole sending)
    {name id : String} {record : ClientRecord} :
    .updateClient name id record ∈ callsOf sending ↔
      name = realm ∧ id = key ∧ changedFields (clientPatch current desired) ≠ [] ∧
        record = { clientPatch current desired with
          secret := if differs then desired.secret else none } := by
  cases sends with
  | nothing same => simp [callsOf, same]
  | secretAlone same given ended => simp [callsOf, same]
  | @fields _ _ written reply granting changed sent ofGrant ended =>
      subst sent
      have elsewhere : .updateClient name id record ∉ callsOf granting :=
        fun member => Bool.noConfusion (quiet_granting ofGrant member).2
      show _ ∈ _ :: callsOf granting ↔ _
      rw [List.mem_cons, or_iff_left elsewhere, AdminCall.updateClient.injEq]
      simp only [changed, ne_eq, not_false_eq_true, true_and]

theorem rotates_iff (sends : SendsOnce realm key current desired differs isWhole sending)
    (given : differs = true → desired.secret.isSome) {name id secret : String} :
    .updateClientSecret name id secret ∈ callsOf sending ↔
      name = realm ∧ id = key ∧ changedFields (clientPatch current desired) = [] ∧
        differs = true ∧ desired.secret = some secret := by
  cases sends with
  | nothing same => simp [callsOf]
  | secretAlone same isGiven ended =>
      simp [callsOf, same, isGiven, eq_comm]
  | @fields _ _ written reply granting changed sent ofGrant ended =>
      have elsewhere : .updateClientSecret name id secret ∉ callsOf granting :=
        fun member => Bool.noConfusion (quiet_granting ofGrant member).2
      show _ ∈ _ :: callsOf granting ↔ _
      rw [List.mem_cons, or_iff_left elsewhere]
      simp [changed]

end SendsOnce

/-- Whether the secret differs is what was found out by reading. -/
theorem ReadsSecret.differs_iff {reading sending : Transcript} {differs isWhole : Bool}
    (reads : ReadsSecret realm key desired reading differs)
    (sends : SendsOnce realm key current desired differs isWhole sending)
    {first : Sigma AdminCall.Reply} (notRead : readsSecret first.1 = false) {secret : String} :
    Differs realm key desired (first :: (reading ++ sending)) secret ↔
      differs = true ∧ desired.secret = some secret := by
  have elsewhere {stored : Option String} :
      (⟨.getClientSecret realm key, .ok stored⟩ : Sigma AdminCall.Reply) ∉ sending := by
    intro member
    have isRead : AdminCall.getClientSecret realm key ∈ (callsOf sending).filter readsSecret :=
      List.mem_filter.2 ⟨List.mem_map_of_mem member, rfl⟩
    rw [sends.reads] at isRead
    cases isRead
  have isFirst {stored : Option String} :
      (⟨.getClientSecret realm key, .ok stored⟩ : Sigma AdminCall.Reply) ≠ first := by
    rintro rfl
    cases notRead
  simp only [Differs, List.mem_cons, List.mem_append, isFirst, elsewhere, false_or, or_false]
  cases reads with
  | undesired nothing => simp [nothing]
  | @read desiredSecret stored given =>
      simp only [given, Option.some.injEq, List.mem_singleton, Sigma.mk.injEq, true_and, heq_eq_eq,
        Except.ok.injEq, exists_eq_left, decide_eq_true_eq]
      constructor
      · rintro ⟨rfl, different⟩
        exact ⟨different, rfl⟩
      · rintro ⟨different, rfl⟩
        exact ⟨rfl, different⟩

/-- **Reading and then sending once makes a turn with one write.** -/
theorem rotatesInOneWrite_of {reading sending : Transcript} {differs isWhole : Bool}
    (reads : ReadsSecret realm key desired reading differs)
    (sends : SendsOnce realm key current desired differs isWhole sending) :
    RotatesInOneWrite realm key current desired isWhole
      (⟨.findClient realm desired.clientId, .ok (some current)⟩ :: (reading ++ sending)) := by
  have differsIff (secret : String) :
      Differs realm key desired
        (⟨.findClient realm desired.clientId, .ok (some current)⟩ :: (reading ++ sending)) secret ↔
          differs = true ∧ desired.secret = some secret :=
    reads.differs_iff sends rfl
  have calls : callsOf (⟨.findClient realm desired.clientId, .ok (some current)⟩ ::
      (reading ++ sending)) =
        .findClient realm desired.clientId :: (callsOf reading ++ callsOf sending) := by
    simp [callsOf]
  have readOnly {call : AdminCall} (member : call ∈ callsOf reading) :
      call = .getClientSecret realm key := by
    rw [reads.calls] at member
    split at member
    · exact List.mem_singleton.1 member
    · cases member
  refine ⟨?_, ?_, fun unfinished => ?_, fun _ name id record => ?_, fun _ name id secret => ?_⟩
  · rw [calls, List.filter_cons_of_neg Bool.false_ne_true, List.filter_append, sends.reads,
      List.append_nil, reads.calls]
    split <;> rfl
  · have quiet : (callsOf reading).filter changesClient = [] :=
      List.filter_eq_nil_iff.2 fun call member => by
        rw [readOnly member]
        exact Bool.false_ne_true
    rw [calls, List.filter_cons_of_neg Bool.false_ne_true, List.filter_append, quiet,
      List.nil_append]
    exact sends.once
  · obtain ⟨exchange, member, failed⟩ := sends.stops unfinished
    exact ⟨exchange, List.mem_cons_of_mem _ (List.mem_append_right _ member), failed⟩
  · have notRead : .updateClient name id record ∉ callsOf reading := fun member => by
      cases readOnly member
    rw [calls, List.mem_cons, List.mem_append, or_iff_right notRead, or_iff_right nofun,
      sends.updates_iff]
    refine and_congr_right fun _ => and_congr_right fun _ => and_congr_right fun _ => ?_
    simp only [differsIff]
    constructor
    · rintro rfl
      refine ⟨rfl, fun secret => ?_⟩
      cases differs <;> simp
    · rintro ⟨fields, secrets⟩
      have secret : record.secret = if differs then desired.secret else none :=
        Option.ext fun secret => by
          rw [secrets secret]
          cases differs <;> simp
      rw [← fields, ← secret]
  · have notRead : .updateClientSecret name id secret ∉ callsOf reading := fun member => by
      cases readOnly member
    rw [calls, List.mem_cons, List.mem_append, or_iff_right notRead, or_iff_right nofun,
      sends.rotates_iff reads.isSome, differsIff]

/-- A secret is sent exactly if it differs. -/
theorem sendsSecret_iff {reading sending : Transcript} {differs isWhole : Bool}
    (reads : ReadsSecret realm key desired reading differs)
    (sends : SendsOnce realm key current desired differs isWhole sending) :
    SendsSecret (⟨.findClient realm desired.clientId, .ok (some current)⟩ ::
      (reading ++ sending)) ↔ differs = true := by
  constructor
  · rintro ⟨call, member, sent⟩
    have late : call ∈ callsOf sending := by
      simp only [callsOf, List.map_cons, List.map_append, List.mem_cons, List.mem_append] at member
      rcases member with rfl | early | late
      · cases sent
      · have read : call ∈ callsOf reading := early
        rw [reads.calls] at read
        split at read
        · cases List.mem_singleton.1 read
          cases sent
        · cases read
      · exact late
    cases call with
    | updateClient name id record =>
        obtain ⟨-, -, -, rfl⟩ := sends.updates_iff.1 late
        cases differs with
        | false => cases sent
        | true => rfl
    | updateClientSecret name id secret => exact (sends.rotates_iff reads.isSome).1 late |>.2.2.2.1
    | _ => cases sent
  · intro isDifferent
    obtain ⟨secret, given⟩ := Option.isSome_iff_exists.1 (reads.isSome isDifferent)
    have among {call : AdminCall} (late : call ∈ callsOf sending) :
        call ∈ callsOf (⟨.findClient realm desired.clientId, .ok (some current)⟩ ::
          (reading ++ sending)) := by
      simp only [callsOf, List.map_cons, List.map_append]
      exact List.mem_cons_of_mem _ (List.mem_append_right _ late)
    by_cases same : changedFields (clientPatch current desired) = []
    · have rotates := (sends.rotates_iff reads.isSome).2 ⟨rfl, rfl, same, isDifferent, given⟩
      exact ⟨_, among rotates, rfl⟩
    · refine ⟨_, among (sends.updates_iff.2 ⟨rfl, rfl, same, rfl⟩), ?_⟩
      simp [sentSecret?, isDifferent, given]

/-- A turn that stops at reading the secret sends nothing. -/
theorem rotatesInOneWrite_unread (given : desired.secret.isSome) (problem : AdminError) :
    RotatesInOneWrite realm key current desired false
      [⟨.findClient realm desired.clientId, .ok (some current)⟩,
        ⟨.getClientSecret realm key, .error problem⟩] where
  reads := by rw [if_pos given]; rfl
  once := Nat.zero_le 1
  stops _ := ⟨_, List.mem_cons_of_mem _ List.mem_cons_self, rfl⟩
  updates := nofun
  rotates := nofun

/-- **A client that is there gets what differs in one write**, and there is a step for its secret
exactly if that was sent. -/
theorem rotates_convergeClient (desired : Blueprint.Client) :
    Leads (convergeClient realm desired) fun turn outcome =>
      ∀ current key rest,
        turn = ⟨.findClient realm desired.clientId, .ok (some current)⟩ :: rest →
          current.id = some key →
            RotatesInOneWrite realm key current desired outcome.isOk turn ∧
              ∀ found, outcome = .ok found →
                ((.clientSecret, desired.clientId) ∈ found.subjects ↔ SendsSecret turn) := by
  refine leads_explained_bind (fun problem => ?_) fun answer => ?_
  · rintro current key rest ⟨⟩
  cases answer with
  | none =>
      refine (leads_any _).mono fun exchanges outcome _ => ?_
      rintro current key rest ⟨⟩
  | some current =>
      dsimp only
      split
      · next noId =>
        refine leads_throw ?_
        rintro other key rest ⟨⟩ isId
        cases noId.symm.trans isId
      · next id isId =>
        refine leads_secretDiffers.bind ?_ ?_
        · rintro exchanges failure (⟨problem, _, given, -, rfl⟩ | ⟨differs, never, -⟩)
          · rintro other key rest ⟨⟩ sameId
            cases isId.symm.trans sameId
            exact ⟨rotatesInOneWrite_unread given problem, nofun⟩
          · cases never
        · rintro reading differs (⟨problem, failure, -, never, -⟩ | ⟨_, ⟨⟩, reads⟩)
          · cases never
          have sends : Leads
              (if (changedFields (clientPatch current desired)).isEmpty then
                rotateSecret realm id desired differs
              else updateClient realm id desired (clientPatch current desired) differs)
              (Sends realm id current desired differs) := by
            split
            · next same => exact sends_rotateSecret reads.isSome (List.isEmpty_iff.1 same)
            · next changed =>
              exact sends_updateClient differs fun same => changed (List.isEmpty_iff.2 same)
          refine sends.mono fun sending outcome sent => ?_
          obtain ⟨sendsOnce, hasStep⟩ := sent
          rintro other key rest ⟨⟩ sameId
          cases isId.symm.trans sameId
          refine ⟨rotatesInOneWrite_of reads sendsOnce, fun found came => ?_⟩
          rw [hasStep found came]
          exact (sendsSecret_iff reads sendsOnce).symm

end Turn

/-! ## Whole runs -/

/-- The turn of a client in a run. If the client is found with an internal identifier, one write
brings it to what is desired, and a report has a step for the secret exactly if that was sent. -/
structure ClientTurn (realm : String) (outcome : Except Failure Report) (isWhole : Bool)
    (desired : Blueprint.Client) (turn : Transcript) : Prop where
  /-- The exchanges are those of bringing the client to its desired state. -/
  course : ∃ came : Except Failure Findings, came.isOk = isWhole ∧
    Course (convergeClient realm desired).run turn came
  /-- One write is sent, of what differs. -/
  rotates : ∀ current key rest,
    turn = ⟨.findClient realm desired.clientId, .ok (some current)⟩ :: rest →
      current.id = some key → RotatesInOneWrite realm key current desired isWhole turn
  /-- What is reported about the secret is what was sent. -/
  reports : ∀ current key rest,
    turn = ⟨.findClient realm desired.clientId, .ok (some current)⟩ :: rest →
      current.id = some key → ∀ report, outcome = .ok report →
        ((∃ step ∈ report.steps, step.kind = .clientSecret ∧ step.key = desired.clientId) ↔
          SendsSecret turn)

theorem clientTurn_of_course {realm : String} {outcome : Except Failure Report}
    {desired : Blueprint.Client} {turn : Transcript} {came : Except Failure Findings}
    (course : Course (convergeClient realm desired).run turn came)
    (reports : ∀ report, outcome = .ok report → ∃ found, came = .ok found ∧
      ((.clientSecret, desired.clientId) ∈ report.findings.subjects ↔
        (.clientSecret, desired.clientId) ∈ found.subjects)) :
    ClientTurn realm outcome came.isOk desired turn := by
  have rotates := rotates_convergeClient desired turn came course
  refine ⟨⟨came, rfl, course⟩,
    fun current key rest begins isId => (rotates current key rest begins isId).1,
    fun current key rest begins isId report isReport => ?_⟩
  obtain ⟨found, isFound, same⟩ := reports report isReport
  rw [← (rotates current key rest begins isId).2 found isFound, ← same]
  simp only [Findings.subjects, List.mem_map, Step.subject, Prod.mk.injEq]
  rfl

/-- **A new secret is one write.** Whoever replies, a run goes through the passes and, in the pass
of clients, through the clients in order. In the turn of a client that is found with an internal
identifier, the stored secret is read once where one is desired and otherwise never, and at most one
call changes the client. A turn that is not finished ends in a call that failed. In a finished one
the client is updated exactly if fields differ, and this carries the secret exactly if it differs
too; the secret is written alone exactly if it differs and no field does. If the run comes to a
report, that has a step for the secret exactly if the secret was sent. -/
theorem apply_rotates_in_one_write {blueprint : Blueprint} {exchanges : Transcript}
    {outcome : Except Failure Report} (course : Course (apply blueprint).run exchanges outcome) :
    (∃ violation, blueprint.validate = .error violation ∧ exchanges = []) ∨
      GoesThrough (fun isFinished pass piece =>
        (∃ came : Except Failure Findings, came.isOk = isFinished ∧
          Course (pass.part blueprint).run piece came) ∧
        (pass = .clients → GoesThrough (ClientTurn blueprint.realm.name outcome) blueprint.clients
          isFinished piece)) Pass.all outcome.isOk exchanges := by
  cases checked : blueprint.validate with
  | error violation =>
      rw [apply_of_violation checked] at course
      cases course with
      | conclude => exact .inl ⟨violation, rfl, rfl⟩
  | ok _ =>
      rw [apply_of_valid checked] at course
      obtain ⟨inner, passesCourse, rfl⟩ := course_bind_pure.1 course
      right
      cases inner with
      | error failure =>
          rw [passes_eq_forEach_all] at passesCourse
          refine (goesThrough_forEach passesCourse).imp ?_
          rintro isFinished pass - piece ⟨came, rfl, passCourse⟩
          refine ⟨⟨came, rfl, passCourse⟩, ?_⟩
          rintro rfl
          refine (goesThrough_forEach passCourse).imp ?_
          rintro isWhole desired - turn ⟨turnCame, rfl, turnCourse⟩
          exact clientTurn_of_course turnCourse nofun
      | ok total =>
          refine (goesThrough_passes_telling passesCourse).imp ?_
          rintro isFinished pass - piece ⟨rfl, found, passCourse, passTells⟩
          refine ⟨⟨_, rfl, passCourse⟩, ?_⟩
          rintro rfl
          refine (goesThrough_clients_telling (Blueprint.validate_eq_ok checked).clients
            passCourse).imp ?_
          rintro isWhole desired - turn ⟨rfl, turnFound, turnCourse, turnTells⟩
          refine clientTurn_of_course turnCourse ?_
          rintro report ⟨⟩
          exact ⟨turnFound, rfl, (passTells _ rfl).trans (turnTells _ rfl)⟩

/-- On a service where the school's client is outdated and has another secret, that is read once,
and the new one is sent once, along with the fields. -/
theorem apply_rotates_in_one_write_outdated :
    ∃ exchanges outcome, Course (apply schoolWithSecret).run exchanges outcome ∧
      outcome.isOk = true ∧
      ((callsOf exchanges).filter readsSecret).length = 1 ∧
      ((callsOf exchanges).filter changesClient).map AdminCall.operation = [.updateClient] ∧
      (callsOf exchanges).filterMap sentSecret? = ["new"] ∧
      GoesThrough (fun isFinished pass piece =>
        (∃ came : Except Failure Findings, came.isOk = isFinished ∧
          Course (pass.part schoolWithSecret).run piece came) ∧
        (pass = .clients → GoesThrough (ClientTurn schoolWithSecret.realm.name outcome)
          schoolWithSecret.clients isFinished piece)) Pass.all true exchanges := by
  have course := Dialogue.course_exchanged (Service.respond Service.Faults.none)
    (apply schoolWithSecret).run outdatedSchool.store
  have finished : ((apply schoolWithSecret).run.run (Service.respond Service.Faults.none)
      outdatedSchool.store).1.isOk = true := by
    decide +kernel
  refine ⟨_, _, course, finished, by decide +kernel, by decide +kernel, by decide +kernel, ?_⟩
  rcases apply_rotates_in_one_write course with ⟨violation, invalid, -⟩ | through
  · have valid : schoolWithSecret.validate.isOk = true := by decide +kernel
    rw [invalid] at valid
    cases valid
  · rwa [finished] at through

end RealmConvergence.Convergence

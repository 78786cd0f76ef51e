import Waywarden.Api.Subscribers
import Waywarden.Properties.ChatDelivery

/-!
# Many clients

The streams of all clients share one registry of subscribers, and a publication notifies whoever is
listed there.  What a client of its own is told by `Stream.notify`, where it is a flag of the stream
that decides, is a view of that: the registry lists exactly the streams with the flag, each once
(`Registered`), so a hub of clients is, for each of them, one stream and its store
(`turns_of_hubTurn`).

Everything shown of a single stream holds of every one among many, and the registry is empty again
when all of them have gone.
-/

namespace Waywarden.RunEvents

open Relation Subscribers EventFrames

variable {Client : Type} [DecidableEq Client]

/-- The store, the coroutines of the clients that have come, and the registry. -/
structure Hub (Client : Type) where
  store : Store
  streams : Client → Option Stream
  registry : Registry Client

namespace Hub

/-- Nobody has come yet. -/
def start (store : Store) : Hub Client := ⟨store, fun _ => none, []⟩

/-- What a turn of a coroutine leaves: the `try` it enters with `_subscribe`, and the `finally` it
leaves with `_unsubscribe`. -/
def settle (hub : Hub Client) (c : Client) (st st' : Stream) : Hub Client :=
  { hub with
    streams := Function.update hub.streams c (some st')
    registry :=
      if st.subscribed = false ∧ st'.subscribed = true then subscribe st.runId c hub.registry
      else if st.subscribed = true ∧ st'.subscribed = false then
        unsubscribe st.runId c hub.registry
      else hub.registry }

/-- `_publish`. -/
def publish (hub : Hub Client) (runId : String) : Hub Client :=
  { hub with
    streams := fun c =>
      if c ∈ subscribersOf runId hub.registry then
        (hub.streams c).map fun st => { st with eventSet := true }
      else hub.streams c }

/-- The client's coroutine has subscribed to the run. -/
def Listens (hub : Hub Client) (c : Client) (runId : String) : Prop :=
  ∃ st ∈ hub.streams c, st.subscribed = true ∧ st.runId = runId

end Hub

/-- One write to the store, a publication, or something one of the clients does. -/
inductive HubTurn : Hub Client → Hub Client → Prop
  | write (hub : Hub Client) {t : Store} (h : StoreWrite hub.store t) :
      HubTurn hub { hub with store := t }
  | publish (hub : Hub Client) (runId : String) : HubTurn hub (hub.publish runId)
  | connect (hub : Hub Client) {c : Client} {runId : String} {lastSeen : ℤ} {st : Stream}
      (hnew : hub.streams c = none)
      (hopened : runEventsStream true hub.store runId lastSeen = .ok st) :
      HubTurn hub { hub with streams := Function.update hub.streams c (some st) }
  | resume (hub : Hub Client) {c : Client} {st : Stream} (hc : hub.streams c = some st) :
      HubTurn hub (hub.settle c st (st.resume hub.store).2)
  | disconnect (hub : Hub Client) {c : Client} {st : Stream} (hc : hub.streams c = some st) :
      HubTurn hub (hub.settle c st st.close)

/-- Any number of them. -/
abbrev HubTurns : Hub Client → Hub Client → Prop := ReflTransGen HubTurn

/-- The registry lists who listens, each once, and nothing else. -/
structure Registered (hub : Hub Client) : Prop where
  tidy : Tidy hub.registry
  once : ∀ runId, (subscribersOf runId hub.registry).Nodup
  listed : ∀ runId c, c ∈ subscribersOf runId hub.registry ↔ hub.Listens c runId
  gone : ∀ c, ∀ st ∈ hub.streams c, st.phase = .returned → st.subscribed = false

/-! ## The registry -/

section

variable {hub hub' : Hub Client} {c : Client} {st st' : Stream} {runId : String}

/-- A coroutine that has returned has no subscriber. -/
lemma subscribed_resume {s : Store} (h : st.phase = .returned → st.subscribed = false)
    (hreturned : (st.resume s).2.phase = .returned) : (st.resume s).2.subscribed = false := by
  have hquery : ∀ since loop, (loop = .replaying ∨ loop = .draining) →
      (st.query s since loop).phase ≠ .returned := by
    intro since loop hloop
    obtain ⟨batch, hquery, -⟩ := query_spec st s since loop
    rw [hquery]
    exact (batch_of_loop hloop batch).2.2.2
  have hstep : ∀ batch loop, (loop = .replaying ∨ loop = .draining) →
      (st.step batch loop).2.phase ≠ .returned := by
    intro batch loop hloop
    rcases step_cases st batch loop with ⟨-, hstep⟩ | ⟨_, ev, rest, -, -, -, hstep⟩ <;> rw [hstep]
    · simp [Stream.block]
    · exact (batch_of_loop hloop rest).2.2.2
  unfold Stream.resume at hreturned ⊢
  cases hphase : st.phase with
  | opening => rw [hphase] at hreturned; exact absurd hreturned (hquery _ _ (Or.inl rfl))
  | replaying batch => rw [hphase] at hreturned; exact absurd hreturned (hstep _ _ (Or.inl rfl))
  | waiting =>
      rw [hphase] at hreturned
      simp only at hreturned
      split at hreturned
      · exact absurd hreturned (by simp)
      · exact absurd (hphase.symm.trans hreturned) (by simp)
  | requerying => rw [hphase] at hreturned; exact absurd hreturned (hquery _ _ (Or.inr rfl))
  | draining batch => rw [hphase] at hreturned; exact absurd hreturned (hstep _ _ (Or.inr rfl))
  | closing => rfl
  | returned => exact h hphase

/-- Who listens after a turn of one client. -/
lemma listens_settle {d : Client} : (hub.settle c st st').Listens d runId ↔
    if d = c then st'.subscribed = true ∧ st'.runId = runId else hub.Listens d runId := by
  unfold Hub.Listens Hub.settle
  by_cases hd : d = c
  · rw [hd, if_pos rfl]
    simp
  · rw [if_neg hd]
    simp only [Function.update_of_ne hd]

/-- A turn of a client keeps the registry. -/
lemma Registered.settle (h : Registered hub) (hc : hub.streams c = some st)
    (hrun : st'.runId = st.runId) (hgone : st'.phase = .returned → st'.subscribed = false) :
    Registered (hub.settle c st st') := by
  have hmine : ∀ r, c ∈ subscribersOf r hub.registry ↔ st.subscribed = true ∧ st.runId = r := by
    intro r
    rw [h.listed]
    unfold Hub.Listens
    simp [hc]
  -- the list of a run is right when it is right about `c`, and as it was about everybody else
  have hlisted : ∀ r d, (d = c ∧ (d ∈ subscribersOf r (hub.settle c st st').registry ↔
        st'.subscribed = true ∧ st.runId = r)) ∨
      d ≠ c ∧ (d ∈ subscribersOf r (hub.settle c st st').registry ↔
        d ∈ subscribersOf r hub.registry) →
      (d ∈ subscribersOf r (hub.settle c st st').registry ↔
        (hub.settle c st st').Listens d r) := by
    rintro r d (⟨hd, hself⟩ | ⟨hd, hother⟩)
    · rw [listens_settle, if_pos hd, hself, hrun]
    · rw [listens_settle, if_neg hd, hother, h.listed]
  have hreturned : ∀ d, ∀ std ∈ (hub.settle c st st').streams d, std.phase = .returned →
      std.subscribed = false := by
    intro d std hstd
    unfold Hub.settle at hstd
    by_cases hd : d = c
    · rw [hd] at hstd
      simp only [Function.update_self, Option.mem_def, Option.some.injEq] at hstd
      rw [← hstd]
      exact hgone
    · simp only [Function.update_of_ne hd] at hstd
      exact h.gone d std hstd
  by_cases henters : st.subscribed = false ∧ st'.subscribed = true
  · have hregistry : (hub.settle c st st').registry = subscribe st.runId c hub.registry :=
      if_pos henters
    have habsent : ∀ r, c ∉ subscribersOf r hub.registry := by
      intro r hmem
      rw [hmine, henters.1] at hmem
      exact Bool.false_ne_true hmem.1
    refine ⟨?_, fun r => ?_, fun r d => hlisted r d ?_, hreturned⟩
    · rw [hregistry]
      exact h.tidy.subscribe st.runId c
    · rw [hregistry]
      exact nodup_subscribe h.once (habsent st.runId) r
    · rw [hregistry, mem_subscribe]
      by_cases hd : d = c
      · rw [hd, henters.2, or_iff_right (habsent r)]
        exact Or.inl ⟨rfl, by simp [eq_comm]⟩
      · exact Or.inr ⟨hd, or_iff_left fun hsame => hd hsame.1⟩
  · by_cases hleaves : st.subscribed = true ∧ st'.subscribed = false
    · have hregistry : (hub.settle c st st').registry = unsubscribe st.runId c hub.registry :=
        (if_neg henters).trans (if_pos hleaves)
      refine ⟨?_, fun r => ?_, fun r d => hlisted r d ?_, hreturned⟩
      · rw [hregistry]
        exact h.tidy.unsubscribe st.runId c
      · rw [hregistry]
        exact nodup_unsubscribe h.once c r
      · rw [hregistry, mem_unsubscribe h.once]
        by_cases hd : d = c
        · refine Or.inl ⟨hd, iff_of_false ?_ fun hnew => ?_⟩
          · rintro ⟨hold, hnot⟩
            rw [hd, hmine] at hold
            exact hnot ⟨hd, hold.2.symm⟩
          · rw [hleaves.2] at hnew
            exact Bool.false_ne_true hnew.1
        · exact Or.inr ⟨hd, and_iff_left fun hsame => hd hsame.1⟩
    · have hregistry : (hub.settle c st st').registry = hub.registry :=
        (if_neg henters).trans (if_neg hleaves)
      have hsame : st'.subscribed = st.subscribed := by
        cases hold : st.subscribed <;> cases hnew : st'.subscribed <;> simp_all
      refine ⟨?_, fun r => ?_, fun r d => hlisted r d ?_, hreturned⟩
      · rw [hregistry]
        exact h.tidy
      · rw [hregistry]
        exact h.once r
      · rw [hregistry]
        by_cases hd : d = c
        · rw [hd, hsame]
          exact Or.inl ⟨rfl, hmine r⟩
        · exact Or.inr ⟨hd, Iff.rfl⟩

/-- Who listens after a publication, and what has become of the streams. -/
lemma streams_publish (hub : Hub Client) (runId : String) (h : Registered hub) (c : Client) :
    (hub.publish runId).streams c = (hub.streams c).map fun st => st.notify runId := by
  unfold Hub.publish
  simp only
  cases hc : hub.streams c with
  | none => split <;> rfl
  | some st =>
      have hmine : c ∈ subscribersOf runId hub.registry ↔
          st.subscribed = true ∧ st.runId = runId := by
        rw [h.listed]
        unfold Hub.Listens
        simp [hc]
      unfold Stream.notify
      by_cases hlistens : st.subscribed = true ∧ st.runId = runId
      · rw [if_pos (hmine.mpr hlistens), Option.map_some, Option.map_some, if_pos hlistens]
      · rw [if_neg fun hmem => hlistens (hmine.mp hmem), Option.map_some, if_neg hlistens]

lemma Registered.publish (h : Registered hub) (runId : String) :
    Registered (hub.publish runId) := by
  have hkept : ∀ st : Stream, (st.notify runId).subscribed = st.subscribed := by
    intro st
    unfold Stream.notify
    split <;> rfl
  refine ⟨h.tidy, h.once, fun r c => ?_, fun c st hst hreturned => ?_⟩
  · show c ∈ subscribersOf r hub.registry ↔ _
    rw [h.listed]
    unfold Hub.Listens
    rw [streams_publish hub runId h]
    cases hub.streams c with
    | none => simp
    | some st => simp [hkept, (notify_frame st runId).1]
  · rw [streams_publish hub runId h, Option.mem_def] at hst
    obtain ⟨old, hold, rfl⟩ := Option.map_eq_some_iff.mp hst
    rw [hkept]
    rw [(notify_frame old runId).2.2.2] at hreturned
    exact h.gone c old hold hreturned

lemma Registered.turn (h : Registered hub) (hturn : HubTurn hub hub') : Registered hub' := by
  cases hturn with
  | write hwrite => exact ⟨h.tidy, h.once, h.listed, h.gone⟩
  | publish runId => exact h.publish runId
  | @connect c runId lastSeen st hnew hopened =>
      have hfresh : st.subscribed = false := by
        rw [eq_fresh_of_opened hopened]
        rfl
      refine ⟨h.tidy, h.once, fun r d => ?_, fun d std hstd hreturned => ?_⟩
      · show d ∈ subscribersOf r hub.registry ↔ _
        rw [h.listed]
        unfold Hub.Listens
        by_cases hd : d = c
        · rw [hd, hnew]
          simp [hfresh]
        · simp only [Function.update_of_ne hd]
      · by_cases hd : d = c
        · rw [hd] at hstd
          simp only [Function.update_self, Option.mem_def, Option.some.injEq] at hstd
          rw [← hstd]
          exact hfresh
        · simp only [Function.update_of_ne hd] at hstd
          exact h.gone d std hstd hreturned
  | @resume c st hc =>
      exact h.settle hc (resume_frame st hub.store).1 (subscribed_resume (h.gone c st hc))
  | disconnect hc => exact h.settle hc rfl fun _ => rfl

lemma Registered.turns (h : Registered hub) (hturns : HubTurns hub hub') : Registered hub' := by
  induction hturns with
  | refl => exact h
  | tail _ hturn ih => exact ih.turn hturn

omit [DecidableEq Client] in
/-- Nobody is registered where nobody has come. -/
lemma registered_start (store : Store) : Registered (Hub.start store : Hub Client) := by
  refine ⟨⟨List.nodup_nil, fun _ h => absurd h List.not_mem_nil⟩, fun _ => List.nodup_nil,
    fun r c => ?_, fun c st h => absurd h (by simp [Hub.start])⟩
  refine iff_of_false List.not_mem_nil fun hlistens => ?_
  obtain ⟨st, hst, -⟩ := hlistens
  exact absurd hst (by simp [Hub.start])

/-! ## One client among many -/

/-- **A turn of the hub is a turn of each client**, or nothing to it. -/
lemma turns_of_hubTurn (h : Registered hub) (hturn : HubTurn hub hub')
    (hc : hub.streams c = some st) :
    ∃ st', hub'.streams c = some st' ∧ Turns (hub.store, st) (hub'.store, st') := by
  have hsettle : ∀ d std std', hub.streams d = some std →
      Turn (hub.store, std) (hub.store, std') →
      ∃ st', (hub.settle d std std').streams c = some st' ∧
        Turns (hub.store, st) ((hub.settle d std std').store, st') := by
    intro d std std' hd hstd
    unfold Hub.settle
    by_cases heq : c = d
    · subst heq
      rw [hc] at hd
      obtain rfl := Option.some.inj hd
      exact ⟨std', Function.update_self _ _ _, .single hstd⟩
    · exact ⟨st, (Function.update_of_ne heq _ _).trans hc, .refl⟩
  cases hturn with
  | write hwrite => exact ⟨st, hc, .single (.write st hwrite)⟩
  | publish runId =>
      refine ⟨st.notify runId, ?_, .single (.notify hub.store st runId)⟩
      rw [streams_publish hub runId h, hc, Option.map_some]
  | @connect d runId lastSeen std hnew hopened =>
      have hne : c ≠ d := by
        rintro rfl
        rw [hc] at hnew
        exact absurd hnew (by simp)
      exact ⟨st, (Function.update_of_ne hne _ _).trans hc, .refl⟩
  | resume hd => exact hsettle _ _ _ hd (.resume hub.store _)
  | disconnect hd => exact hsettle _ _ _ hd (.disconnect hub.store _)

/-- The store of a hub is written by the repositories. -/
lemma journals_of_hubTurn (hturn : HubTurn hub hub') : hub.store.Journals hub'.store := by
  cases hturn with
  | write hwrite => exact .single hwrite
  | publish runId => exact .refl
  | connect hnew hopened => exact .refl
  | resume hd => exact .refl
  | disconnect hd => exact .refl

/-- A client that had not come is one that comes. -/
lemma connect_of_hubTurn (hturn : HubTurn hub hub') (hnone : hub.streams c = none)
    (hc : hub'.streams c = some st) :
    hub'.store = hub.store ∧ ∃ runId lastSeen,
      runEventsStream true hub.store runId lastSeen = .ok st := by
  have hstays : ∀ d std, hub.streams d ≠ none →
      Function.update hub.streams d (some std) c ≠ some st := by
    intro d std hd hupdate
    have hne : c ≠ d := by
      rintro rfl
      exact hd hnone
    rw [Function.update_of_ne hne, hnone] at hupdate
    exact absurd hupdate (by simp)
  cases hturn with
  | write hwrite => exact absurd (hnone.symm.trans hc) (by simp)
  | publish runId =>
      unfold Hub.publish at hc
      simp [hnone] at hc
  | @connect d runId lastSeen std hnew hopened =>
      by_cases hd : c = d
      · subst hd
        obtain rfl : std = st := by simpa using hc
        exact ⟨rfl, runId, lastSeen, hopened⟩
      · simp only [Function.update_of_ne hd, hnone] at hc
        exact absurd hc (by simp)
  | resume hd => exact absurd hc (hstays _ _ (by simp [hd]))
  | disconnect hd => exact absurd hc (hstays _ _ (by simp [hd]))

/-- One client may have the hub for itself for a while. -/
lemma hubTurns_alone (hc : hub.streams c = some st) (n : ℕ) :
    ∃ hub', HubTurns hub hub' ∧ hub'.streams c = some (alone hub.store st n) := by
  induction n generalizing hub st with
  | zero => exact ⟨hub, .refl, hc⟩
  | succ n ih =>
      have hkept : (hub.settle c st (st.resume hub.store).2).streams c =
          some (st.resume hub.store).2 := Function.update_self c _ _
      obtain ⟨hub', hturns, hstream⟩ := ih hkept
      exact ⟨hub', .head (.resume hub hc) hturns, hstream⟩

/-- From when it comes. -/
lemma hubTurns_come (hub : Hub Client) (c : Client) {lastSeen : ℤ} (hnew : hub.streams c = none)
    (hopened : runEventsStream true hub.store runId lastSeen = .ok st) (n : ℕ) :
    ∃ hub', HubTurns hub hub' ∧ hub'.streams c = some (alone hub.store st n) := by
  have hthere : Hub.streams { hub with streams := Function.update hub.streams c (some st) } c =
      some st := Function.update_self c _ _
  obtain ⟨hub', hturns, hstream⟩ := hubTurns_alone hthere n
  exact ⟨hub', .head (.connect hub hnew hopened) hturns, hstream⟩

/-- The stream of a client: it was opened over some store of the hub, and what happened since is a
run of its own. -/
def Came (first : Store) (hub : Hub Client) (st : Stream) : Prop :=
  ∃ s fresh, first.Journals s ∧
    runEventsStream true s st.runId st.lastSeenSeq = .ok fresh ∧ Turns (s, fresh) (hub.store, st)

lemma came_of_hubTurns {first : Store} (hturns : HubTurns (Hub.start first) hub) :
    first.Journals hub.store ∧ ∀ c, ∀ st ∈ hub.streams c, Came first hub st := by
  induction hturns with
  | refl => exact ⟨.refl, fun c st h => absurd h (by simp [Hub.start])⟩
  | @tail mid hub hbefore hturn ih =>
      obtain ⟨hstore, hcame⟩ := ih
      refine ⟨hstore.trans (journals_of_hubTurn hturn), fun c st hc => ?_⟩
      cases hold : mid.streams c with
      | some old =>
          obtain ⟨st', hst', hmoved⟩ :=
            turns_of_hubTurn ((registered_start first).turns hbefore) hturn hold
          obtain rfl := Option.some.inj (hst'.symm.trans hc)
          obtain ⟨s, fresh, hs, hopened, hturns⟩ := hcame c old hold
          obtain ⟨-, hrun, hposition⟩ := frames_turns hmoved
          refine ⟨s, fresh, hs, ?_, hturns.trans hmoved⟩
          rw [hrun, hposition]
          exact hopened
      | none =>
          obtain ⟨hsame, runId, lastSeen, hopened⟩ := connect_of_hubTurn hturn hold hc
          have hfresh := eq_fresh_of_opened hopened
          refine ⟨mid.store, st, hstore, ?_, by rw [hsame]⟩
          rw [hfresh] at hopened ⊢
          exact hopened

end

/-- **Any number of clients.**  Whoever comes, waits and goes while the store is written: the
registry lists who waits and is empty when all have gone, and the stream of each client is a run of
its own over the store.  So one that asked for everything follows the log. -/
theorem hub_clients (T : Lowercase.CaseTable) (R : Rendering) (fmt : DateFormat)
    (sha256 : ByteArray → String) (str : Value → String) (calls : List HarnessCall)
    (hub : Hub Client)
    (hturns : HubTurns (Hub.start (afterCalls T R fmt sha256 calls)) hub) :
    Registered hub ∧
    ((∀ c, ∀ st ∈ hub.streams c, st.phase = .returned) → hub.registry = []) ∧
    ∀ c, ∀ st ∈ hub.streams c, Came (afterCalls T R fmt sha256 calls) hub st ∧
      (st.lastSeenSeq = 0 → st.frames <+: hub.store.log st.runId ∧
        Follows str (hub.store.log st.runId) st.frames) := by
  have hregistered := (registered_start (afterCalls T R fmt sha256 calls)).turns hturns
  refine ⟨hregistered, fun hall => ?_, fun c st hc => ?_⟩
  · refine hregistered.tidy.eq_nil fun runId => List.eq_nil_iff_forall_not_mem.mpr fun c hmem => ?_
    obtain ⟨st, hst, hsubscribed, -⟩ := (hregistered.listed runId c).mp hmem
    rw [hregistered.gone c st hst (hall c st hst)] at hsubscribed
    exact Bool.false_ne_true hsubscribed
  · have hcame := (came_of_hubTurns hturns).2 c st hc
    refine ⟨hcame, fun hzero => ?_⟩
    obtain ⟨s, fresh, hs, hopened, hrun⟩ := hcame
    rw [hzero] at hopened
    have hnumbered := hs.numbered (numbered_afterCalls T R fmt sha256 calls)
    obtain ⟨hsends, -⟩ := sends_opened (k := 0) hnumbered hopened (Or.inl rfl)
    have hsent := (List.prefix_append _ _).trans (hsends.turns hrun).sent
    rw [List.drop_zero] at hsent
    exact ⟨hsent, follows_of_prefix str hsent⟩

/-- A client that has read the log of a started run waits, and is listed. -/
theorem hub_clients_waiting : ∃ hub : Hub Bool, Registered hub ∧
    true ∈ subscribersOf "run-t1" hub.registry := by
  have hopened := @runEventsStream_of_le
    (afterPlainCalls [.run (.start stillEnv sampleTask .api)]) "run-t1" 0 (Int.natCast_nonneg _)
  obtain ⟨hub, hturns, hstream⟩ := hubTurns_come
    (Hub.start (afterPlainCalls [.run (.start stillEnv sampleTask .api)])) true rfl hopened 3
  obtain ⟨hregistered, -⟩ := hub_clients _ _ _ _ (fun _ => "")
    [.run (.start stillEnv sampleTask .api)] hub hturns
  exact ⟨hub, hregistered, (hregistered.listed "run-t1" true).mpr ⟨_, hstream, rfl, rfl⟩⟩

end Waywarden.RunEvents

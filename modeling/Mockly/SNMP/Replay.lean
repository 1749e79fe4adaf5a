import Mockly.SNMP.Agent
import Mockly.Lib.Transition

/-!
# Messages that are accepted twice

`checkTimeliness` accepts a message of the *same* time as the last one, and the agent that replaces
this one after `SetMocks` starts without any times.

Main result: **`noReplay_iff_fresh`**.
-/

namespace Mockly.SNMP

open Transition Agent List UsmSecurityParameters

namespace Agent

variable {W : Type}

/-! ## What is accepted -/

/-- The digest is that of the user: where `respondV3` is about to check the timeliness. -/
def authenticatedV3 (lib : Library) (a : Agent W) (t : EngineTime) (req : SnmpPacket)
    (raw : GoString) (decodeErr : Option GoString) : Option UsmSecurityParameters :=
  if decodeErr = none ∧ req.vars = [] then none
  else
    match req.securityParameters with
    | some (.usm usp) =>
      match a.findUser usp.userName with
      | none => none
      | some user =>
        if req.msgFlags &&& authPriv ≠ user.level then none
        else
          match a.localUser lib t.localise user with
          | .error _ => none
          | .ok keys =>
            if user.authenticationProtocol.aboveNoAuth && verifyAuthDigest lib raw
                user.authenticationProtocol keys.secretKey usp.authenticationParameters
            then some usp else none
    | _ => none

def authenticated (lib : Library) (a : Agent W) (t : EngineTime) (raw : GoString) :
    Option UsmSecurityParameters :=
  let d := lib.decode (a.blankUSM t.probe) raw
  match d.packet with
  | none => none
  | some req => if req.version = .version3 then authenticatedV3 lib a t req raw d.err else none

/-- The security parameters of a message that is accepted. -/
def accepted (lib : Library) (a : Agent W) (t : EngineTime) (raw : GoString) :
    Option UsmSecurityParameters :=
  (a.authenticated lib t raw).filter fun usp => (a.checkTimeliness t.check usp).isSome

lemma serveUser_usmLastTime (lib : Library) (a : Agent W) (t : EngineTime)
    (user keys : UsmSecurityParameters) (req : SnmpPacket) (raw : GoString)
    (decodeErr : Option GoString) (w : World W) :
    (serveUser lib a t user keys req raw decodeErr w).usmLastTime = a.usmLastTime := by
  unfold serveUser
  dsimp only
  split
  · rfl
  · split <;> rfl

lemma respondCommunity_usmLastTime (lib : Library) (a : Agent W) (req : SnmpPacket) (w : World W) :
    (respondCommunity lib a req w).usmLastTime = a.usmLastTime := by
  unfold respondCommunity
  split_ifs
  · rfl
  · split <;> rfl

lemma respondV3_usmLastTime (lib : Library) (a : Agent W) (t : EngineTime) (req : SnmpPacket)
    (raw : GoString) (decodeErr : Option GoString) (w : World W) :
    (respondV3 lib a t req raw decodeErr w).usmLastTime =
      ((authenticatedV3 lib a t req raw decodeErr).bind
        (a.checkTimeliness t.check)).getD a.usmLastTime := by
  unfold respondV3 authenticatedV3
  split_ifs with hhello
  · rfl
  cases req.securityParameters with
  | none => rfl
  | some sp =>
    cases sp with
    | other => rfl
    | usm usp =>
      dsimp only
      cases a.findUser usp.userName with
      | none => rfl
      | some user =>
        dsimp only
        by_cases hlevel : req.msgFlags &&& authPriv ≠ user.level
        · simp only [if_pos hlevel]
          rfl
        simp only [if_neg hlevel]
        cases a.localUser lib t.localise user with
        | error e => rfl
        | ok keys =>
          dsimp only
          cases user.authenticationProtocol.aboveNoAuth with
          | false => exact serveUser_usmLastTime lib a t user keys req raw decodeErr w
          | true =>
            cases verifyAuthDigest lib raw user.authenticationProtocol keys.secretKey
                usp.authenticationParameters with
            | false => rfl
            | true =>
              cases htime : a.checkTimeliness t.check usp with
              | none => simp [htime, answer]
              | some times => simp [htime, serveUser_usmLastTime]

/-- **The times change with the messages that are accepted, and with nothing else.** -/
lemma respond_usmLastTime (lib : Library) (a : Agent W) (t : EngineTime) (raw : GoString)
    (w : World W) :
    (respond lib a t raw w).usmLastTime =
      ((a.authenticated lib t raw).bind (a.checkTimeliness t.check)).getD a.usmLastTime := by
  unfold respond authenticated
  dsimp only
  cases (lib.decode (a.blankUSM t.probe) raw).packet with
  | none => rfl
  | some req =>
    dsimp only
    cases hv : req.version with
    | version1 | version2c => exact respondCommunity_usmLastTime lib a req w
    | version3 => exact respondV3_usmLastTime lib a t req raw _ w
    | other n => rfl

/-- The time of a message is within the window around that of the engine. -/
def InWindow (now : UInt32) (usp : UsmSecurityParameters) : Prop :=
  |(now.toNat : ℤ) - usp.authoritativeEngineTime.toNat| ≤ usmTimeWindow

lemma checkTimeliness_eq_some_iff {a : Agent W} {now : UInt32} {usp : UsmSecurityParameters}
    {times : GoMap UInt32} :
    a.checkTimeliness now usp = some times ↔
      usp.authoritativeEngineBoots = a.engineBoots ∧ InWindow now usp ∧
        (∀ last ∈ a.usmLastTime.get? usp.userName, last ≤ usp.authoritativeEngineTime) ∧
        times = a.usmLastTime.set usp.userName usp.authoritativeEngineTime := by
  unfold checkTimeliness InWindow
  by_cases hboots : usp.authoritativeEngineBoots = a.engineBoots
  · by_cases hwindow : usmTimeWindow < |(now.toNat : ℤ) - usp.authoritativeEngineTime.toNat|
    · simp [hboots, hwindow, not_le.mpr hwindow]
    · simp only [hboots, ne_eq, not_true_eq_false, if_false, hwindow, true_and, not_lt.mp hwindow]
      cases a.usmLastTime.get? usp.userName with
      | none => simp [eq_comm]
      | some last =>
        by_cases hlast : usp.authoritativeEngineTime < last
        · simp [hlast]
        · simp [hlast, UInt32.not_lt.mp hlast, eq_comm]
  · simp [hboots]

def remember (a : Agent W) (usp : UsmSecurityParameters) : Agent W :=
  { a with usmLastTime := a.usmLastTime.set usp.userName usp.authoritativeEngineTime }

lemma get?_remember (a : Agent W) (usp : UsmSecurityParameters) (u : GoString) :
    (a.remember usp).usmLastTime.get? u =
      if u = usp.userName then some usp.authoritativeEngineTime else a.usmLastTime.get? u :=
  GoMap.get?_set a.usmLastTime usp.userName u usp.authoritativeEngineTime

/-- `newAgent`, with the items in their order. -/
def newAgent (community : GoString) (snmpV3Only : Bool) (users : List UsmSecurityParameters)
    (engineID : GoString) (items : List (PduItem W)) : Agent W where
  community := community
  snmpV3Only := snmpV3Only
  users := users
  engineID := engineID
  engineBoots := 1
  oids := items
  usmLastTime := ∅

end Agent

/-! ## A server over time -/

/-- What the timeliness of a message goes by. -/
structure Stamp where
  user : GoString
  boots : UInt32
  time : UInt32

def UsmSecurityParameters.stamp (usp : UsmSecurityParameters) : Stamp :=
  ⟨usp.userName, usp.authoritativeEngineBoots, usp.authoritativeEngineTime⟩

def Stamp.Newer (y x : Stamp) : Prop := x.boots < y.boots ∨ x.boots = y.boots ∧ x.time < y.time

instance (y x : Stamp) : Decidable (y.Newer x) :=
  inferInstanceAs (Decidable (_ ∨ _))

/-- Its agent, what the callbacks work on, and the messages accepted before the agent was built and
since. -/
structure Answering (W : Type) where
  agent : Agent W
  world : World W
  former : List Stamp := []
  current : List Stamp := []

/-- A datagram arrives, or the agent is built anew after `SetMocks`. -/
inductive AnsweringEvent (W : Type)
  | datagram (t : EngineTime) (raw : GoString)
  | rebuild (items : List (PduItem W)) (state : W)

section

variable {W : Type} (lib : Library)

def answeringStep (s : Answering W) : AnsweringEvent W → Option (Answering W)
  | .datagram t raw =>
    let o := s.agent.respond lib t raw s.world
    some { s with
      agent := { s.agent with usmLastTime := o.usmLastTime }
      world := o.world
      current := s.current ++ ((s.agent.accepted lib t raw).map (·.stamp)).toList }
  | .rebuild items state =>
    some
      { agent :=
          .newAgent s.agent.community s.agent.snmpV3Only s.agent.users s.agent.engineID items
        world := { s.world with state := state }
        former := s.former ++ s.current }

/-- What is answered to a user gets newer and newer. -/
def NoReplay (s : Answering W) : Prop :=
  (s.former ++ s.current).Pairwise fun x y => x.user = y.user → y.Newer x

instance (s : Answering W) : Decidable (NoReplay s) := by
  unfold NoReplay
  infer_instance

/-- A message with the right digest and within the time window does not have the time of the last
message this agent has accepted from the user; and unless it is older than that, it is newer than
all that was accepted before the agent was built. -/
def Fresh (s : Answering W) : AnsweringEvent W → Prop
  | .datagram t raw => ∀ usp ∈ s.agent.authenticated lib t raw,
      usp.authoritativeEngineBoots = s.agent.engineBoots → Agent.InWindow t.check usp →
        s.agent.usmLastTime.get? usp.userName ≠ some usp.authoritativeEngineTime ∧
          ((∀ last ∈ s.agent.usmLastTime.get? usp.userName, last ≤ usp.authoritativeEngineTime) →
            ∀ x ∈ s.former, x.user = usp.userName → x.time < usp.authoritativeEngineTime)
  | .rebuild _ _ => True

structure Remembers (s : Answering W) : Prop where
  engineBoots : s.agent.engineBoots = 1
  boots : ∀ x ∈ s.former ++ s.current, x.boots = 1
  unseen : ∀ u, s.agent.usmLastTime.get? u = none → ∀ x ∈ s.current, x.user ≠ u
  latest : ∀ u last, s.agent.usmLastTime.get? u = some last →
    (∃ x ∈ s.current, x.user = u ∧ x.time = last) ∧ ∀ x ∈ s.current, x.user = u → x.time ≤ last

section

variable {s : Answering W} {usp : UsmSecurityParameters} (hs : Remembers s)
  (hlast : ∀ last ∈ s.agent.usmLastTime.get? usp.userName, last ≤ usp.authoritativeEngineTime)
include hs hlast

lemma Remembers.le_of_last :
    ∀ x ∈ s.current, x.user = usp.userName → x.time ≤ usp.authoritativeEngineTime := by
  intro x hx hxu
  cases hget : s.agent.usmLastTime.get? usp.userName with
  | none => exact absurd hxu (hs.unseen _ hget x hx)
  | some last => exact UInt32.le_trans ((hs.latest _ last hget).2 x hx hxu) (hlast last hget)

lemma Remembers.lt_iff :
    (∀ x ∈ s.current, x.user = usp.userName → x.time < usp.authoritativeEngineTime) ↔
      s.agent.usmLastTime.get? usp.userName ≠ some usp.authoritativeEngineTime := by
  constructor
  · intro h hget
    obtain ⟨⟨x, hx, hxu, hxt⟩, -⟩ := hs.latest _ _ hget
    have := h x hx hxu
    rw [hxt] at this
    exact UInt32.lt_irrefl _ this
  · intro hne x hx hxu
    refine UInt32.lt_of_le_of_ne (hs.le_of_last hlast x hx hxu) fun hxt => ?_
    cases hget : s.agent.usmLastTime.get? usp.userName with
    | none => exact hs.unseen _ hget x hx hxu
    | some last =>
      have hle := (hs.latest _ last hget).2 x hx hxu
      rw [hxt] at hle
      exact hne (by rw [hget, UInt32.le_antisymm (hlast last hget) hle])

end

variable {lib}

variable {s : Answering W}

variable {t : EngineTime} {raw : GoString}

lemma answeringStep_of_not_accepted
    (h : (s.agent.authenticated lib t raw).bind (s.agent.checkTimeliness t.check) = none) :
    answeringStep lib s (.datagram t raw) =
      some { s with world := (s.agent.respond lib t raw s.world).world } := by
  have hacc : s.agent.accepted lib t raw = none := by
    cases hauth : s.agent.authenticated lib t raw with
    | none => simp [accepted, hauth]
    | some usp =>
      rw [hauth, Option.bind_some] at h
      simp [accepted, hauth, h]
  simp only [answeringStep, respond_usmLastTime, h, hacc]
  simp

lemma answeringStep_of_accepted {usp : UsmSecurityParameters} {times : GoMap UInt32}
    (hauth : s.agent.authenticated lib t raw = some usp)
    (htimes : s.agent.checkTimeliness t.check usp = some times) :
    answeringStep lib s (.datagram t raw) =
      some { s with
        agent := { s.agent with usmLastTime := times }
        world := (s.agent.respond lib t raw s.world).world
        current := s.current ++ [usp.stamp] } := by
  simp [answeringStep, respond_usmLastTime, accepted, hauth, htimes]

lemma fresh_of_refused {usp : UsmSecurityParameters}
    (hauth : s.agent.authenticated lib t raw = some usp)
    (hrefused : s.agent.checkTimeliness t.check usp = none) : Fresh lib s (.datagram t raw) := by
  intro usp' husp hboots hwindow
  obtain rfl : usp = usp' := by simpa [hauth] using husp
  have hold : ¬∀ last ∈ s.agent.usmLastTime.get? usp.userName,
      last ≤ usp.authoritativeEngineTime := by
    intro hall
    have hsome := checkTimeliness_eq_some_iff.mpr ⟨hboots, hwindow, hall, rfl⟩
    rw [hrefused] at hsome
    cases hsome
  refine ⟨fun hlast => hold fun last hmem => ?_, fun hall => absurd hall hold⟩
  rw [hlast, Option.mem_def, Option.some.injEq] at hmem
  rw [hmem]
  exact UInt32.le_refl _

variable {s' : Answering W} {ev : AnsweringEvent W}

lemma answeringStep_cases (h : answeringStep lib s ev = some s') :
    (s'.agent = s.agent ∧ s'.former = s.former ∧ s'.current = s.current ∧ Fresh lib s ev) ∨
    (∃ usp, (∀ last ∈ s.agent.usmLastTime.get? usp.userName, last ≤ usp.authoritativeEngineTime) ∧
      usp.authoritativeEngineBoots = s.agent.engineBoots ∧
      s'.agent = s.agent.remember usp ∧
      s'.former = s.former ∧ s'.current = s.current ++ [usp.stamp] ∧
      (Fresh lib s ev ↔
        s.agent.usmLastTime.get? usp.userName ≠ some usp.authoritativeEngineTime ∧
          ∀ x ∈ s.former, x.user = usp.userName → x.time < usp.authoritativeEngineTime)) ∨
    (s'.agent.engineBoots = 1 ∧ s'.agent.usmLastTime = ∅ ∧ s'.former = s.former ++ s.current ∧
      s'.current = [] ∧ Fresh lib s ev) := by
  cases ev with
  | rebuild items state =>
    cases h
    exact Or.inr (Or.inr ⟨rfl, rfl, rfl, rfl, trivial⟩)
  | datagram t raw =>
    cases hauth : s.agent.authenticated lib t raw with
    | none =>
      rw [answeringStep_of_not_accepted (by rw [hauth]; rfl)] at h
      cases h
      exact Or.inl ⟨rfl, rfl, rfl, by simp [Fresh, hauth]⟩
    | some usp =>
      cases htimes : s.agent.checkTimeliness t.check usp with
      | none =>
        rw [answeringStep_of_not_accepted (by rw [hauth]; exact htimes)] at h
        cases h
        exact Or.inl ⟨rfl, rfl, rfl, fresh_of_refused hauth htimes⟩
      | some times =>
        obtain ⟨hboots, hwindow, hlast, rfl⟩ := checkTimeliness_eq_some_iff.mp htimes
        rw [answeringStep_of_accepted hauth htimes] at h
        cases h
        refine Or.inr (Or.inl ⟨usp, hlast, hboots, rfl, rfl, rfl, ?_⟩)
        simp only [Fresh, hauth, Option.mem_def, Option.some.injEq, forall_eq', hboots,
          hwindow, true_imp_iff]
        exact and_congr_right fun _ => ⟨fun hall => hall hlast, fun hall _ => hall⟩

lemma Remembers.accept {usp : UsmSecurityParameters} (hs : Remembers s)
    (hlast : ∀ last ∈ s.agent.usmLastTime.get? usp.userName, last ≤ usp.authoritativeEngineTime)
    (hboots : usp.authoritativeEngineBoots = s.agent.engineBoots)
    (ha : s'.agent = s.agent.remember usp) (hf : s'.former = s.former)
    (hc : s'.current = s.current ++ [usp.stamp]) : Remembers s' where
  engineBoots := by
    rw [ha]
    exact hs.engineBoots
  boots := by
    rw [hf, hc, ← append_assoc, forall_mem_append]
    exact ⟨hs.boots, by simpa [stamp] using hboots.trans hs.engineBoots⟩
  unseen := by
    intro u hu
    rw [ha, get?_remember] at hu
    split_ifs at hu with hname
    rw [hc, forall_mem_append]
    exact ⟨hs.unseen u hu, by simpa using fun h => hname h.symm⟩
  latest := by
    intro u last hu
    rw [ha, get?_remember] at hu
    rw [hc, forall_mem_append]
    split_ifs at hu with hname
    · obtain rfl := Option.some.inj hu
      subst hname
      exact ⟨⟨usp.stamp, by simp, rfl, rfl⟩, hs.le_of_last hlast, by simp [stamp]⟩
    · obtain ⟨⟨x, hx, hxu, hxt⟩, hall⟩ := hs.latest u last hu
      refine ⟨⟨x, mem_append_left _ hx, hxu, hxt⟩, hall, ?_⟩
      simpa using fun h => absurd h.symm hname

lemma remembers_step (hs : Remembers s) (h : answeringStep lib s ev = some s') : Remembers s' := by
  rcases answeringStep_cases h with ⟨ha, hf, hc, -⟩ | ⟨usp, hlast, hboots, ha, hf, hc, -⟩ |
    ⟨hb, ht, hf, hc, -⟩
  · exact ⟨ha ▸ hs.engineBoots, hf ▸ hc ▸ hs.boots, ha ▸ hc ▸ hs.unseen, ha ▸ hc ▸ hs.latest⟩
  · exact hs.accept hlast hboots ha hf hc
  · refine ⟨hb, ?_, ?_, ?_⟩
    · rw [hf, hc, append_nil]
      exact hs.boots
    · simp [hc]
    · intro u last hu
      rw [ht] at hu
      simp at hu

/-- **A step is fresh exactly if it lets no replay through.** -/
lemma fresh_iff_noReplay (hs : Remembers s) (hno : NoReplay s)
    (h : answeringStep lib s ev = some s') : Fresh lib s ev ↔ NoReplay s' := by
  rcases answeringStep_cases h with ⟨-, hf, hc, hfresh⟩ | ⟨usp, hlast, hboots, -, hf, hc, hfresh⟩ |
    ⟨-, -, hf, hc, hfresh⟩
  · refine iff_of_true hfresh ?_
    rw [NoReplay, hf, hc]
    exact hno
  · have hnewer : ∀ x ∈ s.former ++ s.current, (usp.stamp.Newer x ↔
        x.time < usp.authoritativeEngineTime) := by
      intro x hx
      have hb : x.boots = usp.authoritativeEngineBoots := by
        rw [hs.boots x hx, hboots, hs.engineBoots]
      simp [Stamp.Newer, stamp, hb]
    have hpair : NoReplay s' ↔ ∀ x ∈ s.former ++ s.current, x.user = usp.userName →
        x.time < usp.authoritativeEngineTime := by
      rw [NoReplay, hf, hc, ← append_assoc, pairwise_append]
      simp only [pairwise_singleton, mem_singleton, forall_eq, true_and]
      exact (and_iff_right hno).trans
        (forall₂_congr fun x hx => imp_congr_right fun _ => hnewer x hx)
    rw [hfresh, ← hs.lt_iff hlast, hpair, forall_mem_append, and_comm]
  · refine iff_of_true hfresh ?_
    rw [NoReplay, hf, hc, append_nil]
    exact hno

def Answering.start (community : GoString) (snmpV3Only : Bool) (users : List UsmSecurityParameters)
    (engineID : GoString) (items : List (PduItem W)) (state : W) : Answering W where
  agent := .newAgent community snmpV3Only users engineID items
  world := ⟨state, []⟩

lemma exists_run (lib : Library) (evs : List (AnsweringEvent W)) :
    ∀ s : Answering W, ∃ t, run (answeringStep lib) s evs = some t := by
  induction evs with
  | nil => exact fun s => ⟨s, rfl⟩
  | cons ev evs ih =>
    intro s
    obtain ⟨u, hu⟩ : ∃ u, answeringStep lib s ev = some u := by
      cases ev <;> exact ⟨_, rfl⟩
    obtain ⟨t, ht⟩ := ih u
    exact ⟨t, run_cons.mpr ⟨u, hu, ht⟩⟩

/-- **Replays are kept out exactly while the messages are fresh.** -/
theorem noReplay_iff_fresh (lib : Library) (community : GoString) (snmpV3Only : Bool)
    (users : List UsmSecurityParameters) (engineID : GoString) (items : List (PduItem W))
    (state : W) (evs : List (AnsweringEvent W)) :
    (∀ bs, bs <+: evs → ∀ u, run (answeringStep lib)
        (.start community snmpV3Only users engineID items state) bs = some u → NoReplay u) ↔
      Along (answeringStep lib) (Fresh lib)
        (.start community snmpV3Only users engineID items state) evs := by
  obtain ⟨t, ht⟩ := exists_run lib evs (.start community snmpV3Only users engineID items state)
  have hstart : Remembers (Answering.start community snmpV3Only users engineID items state) :=
    ⟨rfl, by simp [Answering.start], by simp [Answering.start],
      by simp [Answering.start, newAgent]⟩
  have hno : NoReplay (Answering.start community snmpV3Only users engineID items state) := by
    simp [NoReplay, Answering.start]
  exact (along_iff_prefixes (fun _ _ s _ (hs : Remembers s ∧ NoReplay s) hok h =>
    ⟨remembers_step hs.1 h, (fresh_iff_noReplay hs.1 hs.2 h).mp hok⟩)
    (fun _ _ _ _ hs h => fresh_iff_noReplay hs.1 hs.2 h) ⟨hstart, hno⟩ hno ht).symm

end

def stampLibrary : Library :=
  { toyLibrary with
    decode := fun _ raw =>
      ⟨some
        { version := .version3, msgFlags := authNoPriv, pduType := .getRequest
          securityParameters := some (.usm
            { userName := go "u", authoritativeEngineBoots := 1
              authoritativeEngineTime := UInt32.ofNat raw.length
              authenticationParameters := raw.take 12 })
          vars := [⟨go "1.3", .null, .nil⟩] }, none⟩ }

def stampServer : Answering ℕ :=
  .start (go "public") false [{ userName := go "u", authenticationProtocol := .md5 }] (go "engine")
    [] 0

/-- A message that is accepted twice; and one that is accepted after a later one, since the agent
has been built anew in between. -/
theorem replay_accepted :
    (∃ s, run (answeringStep stampLibrary) stampServer
        [.datagram ⟨20, 20, 20, 20, 20, 20⟩ (List.replicate 20 7),
          .datagram ⟨21, 21, 21, 21, 21, 21⟩ (List.replicate 20 7)] = some s ∧
      s.current = [⟨go "u", 1, 20⟩, ⟨go "u", 1, 20⟩] ∧ ¬NoReplay s) ∧
    ∃ s, run (answeringStep stampLibrary) stampServer
        [.datagram ⟨20, 20, 20, 20, 20, 20⟩ (List.replicate 20 7), .rebuild [] 0,
          .datagram ⟨21, 21, 21, 21, 21, 21⟩ (List.replicate 15 7)] = some s ∧
      s.former = [⟨go "u", 1, 20⟩] ∧ s.current = [⟨go "u", 1, 15⟩] ∧ ¬NoReplay s :=
  ⟨⟨_, rfl, rfl, by decide⟩, ⟨_, rfl, rfl, rfl, by decide⟩⟩

end Mockly.SNMP

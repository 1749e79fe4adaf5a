import Mockly.SNMP.Walk

/-!
# GetBulk

The agent marks the end of a repeater's walk once and leaves the repeater out of the rows that
follow. And it makes no more rows than the table has items.

Main result: **`getBulk_iff_aligned`**.
-/

namespace Mockly.SNMP

open PduItem SortedBy List

section

variable {W : Type}

/-- The answer to a GetNext for the name, for the name of that answer, and so on. -/
def successor (oids : List (PduItem W)) : ℕ → GoString → Option (PduItem W)
  | 0, name => nextItem oids name
  | r + 1, name => (nextItem oids name).bind fun item => successor oids r item.oid

/-- The name that was asked for, and the item, or none for the end of the view. -/
abbrev Slot (W : Type) := GoString × Option (PduItem W)

def evalSlot (slot : Slot W) : StateM (World W) SnmpPDU :=
  match slot.2 with
  | none => return endOfMibView slot.1
  | some item => get item

def addSlots (slots : List (Slot W)) (resp : SnmpPacket) : StateM (World W) SnmpPacket :=
  slots.foldlM (fun resp slot => return resp.append (← evalSlot slot)) resp

/-- The response to the request that has the variables of the slots. -/
def answerSlots (req : SnmpPacket) (slots : List (Slot W)) (w : World W) :
    Option SnmpPacket × World W :=
  (addSlots slots (responseFor req) w).map some id

def nonRepeaters (req : SnmpPacket) : ℕ := min req.nonRepeaters.toNat req.vars.length

def repeaters (req : SnmpPacket) : List SnmpPDU := req.vars.drop (nonRepeaters req)

def bulkSlots (oids : List (PduItem W)) (req : SnmpPacket) (rounds : ℕ) : List (Slot W) :=
  (req.vars.take (nonRepeaters req)).map (fun v => (v.name, nextItem oids v.name)) ++
    (List.range rounds).flatMap fun r =>
      (repeaters req).map fun v => (v.name, successor oids r v.name)

/-- The first round in which every repeater has come to its end. -/
structure FirstExhausted (oids : List (PduItem W)) (reps : List SnmpPDU) (r₀ : ℕ) : Prop where
  ended : ∀ v ∈ reps, successor oids r₀ v.name = none
  first : ∀ r < r₀, ∃ v ∈ reps, successor oids r v.name ≠ none

instance (oids : List (PduItem W)) (reps : List SnmpPDU) (r₀ : ℕ) :
    Decidable (FirstExhausted oids reps r₀) :=
  decidable_of_iff ((∀ v ∈ reps, (successor oids r₀ v.name).isNone) ∧
      ∀ r < r₀, ∃ v ∈ reps, (successor oids r v.name).isSome) <| by
    simp only [Option.isNone_iff_eq_none, Option.isSome_iff_ne_none]
    exact ⟨fun h => ⟨h.1, h.2⟩, fun h => ⟨h.1, h.2⟩⟩

lemma FirstExhausted.unique {oids : List (PduItem W)} {reps : List SnmpPDU} {r r' : ℕ}
    (h : FirstExhausted oids reps r) (h' : FirstExhausted oids reps r') : r = r' := by
  rcases lt_trichotomy r r' with hlt | heq | hgt
  · obtain ⟨v, hv, hne⟩ := h'.first r hlt
    exact absurd (h.ended v hv) hne
  · exact heq
  · obtain ⟨v, hv, hne⟩ := h.first r' hgt
    exact absurd (h'.ended v hv) hne

def itemsAfter (oids : List (PduItem W)) (name : GoString) : ℕ :=
  (above key (oidKey name) oids).length

variable {oids : List (PduItem W)}

/-! ## Walks of a table without repetitions -/

section Distinct

variable (hsorted : SortedTable oids) (hdistinct : (oids.map key).Nodup)
include hdistinct

lemma atMostOne_of_nodup (k : List ℕ) : AtMostOne oids k :=
  length_matching_le_one hdistinct k

include hsorted

variable {name : GoString} {q : List ℕ}

lemma drop_walkFrom_of_nodup (hq : oidToByteString name = some q) :
    oids.drop (walkFrom oids name) = above key q oids := by
  rw [drop_walkFrom hsorted hq, AtMostOne.tail_eq_nil (atMostOne_of_nodup hdistinct q), nil_append]

lemma successor_eq (hq : oidToByteString name = some q) (r : ℕ) :
    successor oids r name = (above key q oids)[r]? := by
  induction r generalizing name q with
  | zero =>
    rw [successor, nextItem_of_atMostOne hsorted hq (atMostOne_of_nodup hdistinct q),
      List.head?_eq_getElem?]
  | succ r ih =>
    rw [successor, nextItem_of_atMostOne hsorted hq (atMostOne_of_nodup hdistinct q)]
    cases ha : above key q oids with
    | nil => rfl
    | cons item rest =>
      have hlt := (mem_above.mp (ha ▸ mem_cons_self)).2
      rw [List.head?_cons, Option.bind_some, ih (oidToByteString_of_lt hlt)]
      have hrest := (above_cons hsorted ha (atMostOne_of_nodup hdistinct _)).2
      rw [List.getElem?_cons_succ]
      exact congrArg (·[r]?) hrest

lemma getElem?_walkFrom (hq : oidToByteString name = some q) (r : ℕ) :
    oids[walkFrom oids name + r]? = successor oids r name := by
  rw [successor_eq hsorted hdistinct hq, ← drop_walkFrom_of_nodup hsorted hdistinct hq,
    List.getElem?_drop]

lemma successor_eq_none_iff (hq : (oidToByteString name).isSome) (r : ℕ) :
    successor oids r name = none ↔ itemsAfter oids name ≤ r := by
  obtain ⟨q, hq⟩ := Option.isSome_iff_exists.mp hq
  rw [successor_eq hsorted hdistinct hq, List.getElem?_eq_none_iff, itemsAfter, oidKey, hq,
    Option.getD_some]

end Distinct

/-! ## The rows of the agent -/

def row (oids : List (PduItem W)) (reps : List SnmpPDU) (r : ℕ) : List (Slot W) :=
  (reps.filter fun v => r ≤ itemsAfter oids v.name).map fun v =>
    (v.name, successor oids r v.name)

def agentSlots (oids : List (PduItem W)) (req : SnmpPacket) : List (Slot W) :=
  (req.vars.take (nonRepeaters req)).map (fun v => (v.name, nextItem oids v.name)) ++
    (List.range (min req.maxRepetitions.toNat oids.length)).flatMap (row oids (repeaters req))

lemma row_cons (v : SnmpPDU) (reps : List SnmpPDU) (r : ℕ) :
    row oids (v :: reps) r =
      (if r ≤ itemsAfter oids v.name then [(v.name, successor oids r v.name)] else []) ++
        row oids reps r := by
  by_cases h : r ≤ itemsAfter oids v.name <;> simp [row, h]

lemma addSlots_append (a b : List (Slot W)) (resp : SnmpPacket) :
    addSlots (a ++ b) resp = addSlots a resp >>= addSlots b :=
  foldlM_append

variable (slot : Slot W) (slots : List (Slot W)) (resp : SnmpPacket)

@[simp] lemma addSlots_nil : addSlots ([] : List (Slot W)) resp = pure resp := rfl

@[simp] lemma addSlots_singleton :
    addSlots [slot] resp = do return resp.append (← evalSlot slot) := by
  simp [addSlots]

/-- The agent has noted the positions of the repeaters that have ended before round `r`. -/
def EndedBefore (oids : List (PduItem W)) (reps : List (SnmpPDU × ℕ)) (r : ℕ)
    (eomSent : List ℕ) : Prop :=
  ∀ p ∈ reps, (p.2 ∈ eomSent ↔ itemsAfter oids p.1.name < r)

/-- The positions of the repeaters that end in round `r`. -/
def endingIn (oids : List (PduItem W)) (reps : List (SnmpPDU × ℕ)) (r : ℕ) : List ℕ :=
  ((reps.filter fun p => itemsAfter oids p.1.name = r).map Prod.snd).reverse

variable {k : ℕ}

section Rounds

variable {reps : List (SnmpPDU × ℕ)} {r : ℕ} {eomSent : List ℕ}

lemma EndedBefore.succ (hended : EndedBefore oids reps r eomSent)
    (hpos : (reps.map Prod.snd).Nodup) :
    EndedBefore oids reps (r + 1) (endingIn oids reps r ++ eomSent) := by
  intro p hp
  have hin : p.2 ∈ endingIn oids reps r ↔ itemsAfter oids p.1.name = r := by
    simp only [endingIn, mem_reverse, mem_map, mem_filter, decide_eq_true_eq]
    constructor
    · rintro ⟨p', ⟨hp', heq⟩, hk⟩
      rwa [← inj_on_of_nodup_map hpos hp' hp hk]
    · exact fun heq => ⟨p, ⟨hp, heq⟩, rfl⟩
  rw [mem_append, hin, hended p hp]
  omega

lemma endingIn_cons (v : SnmpPDU) (k : ℕ) (reps : List (SnmpPDU × ℕ)) (r : ℕ) :
    endingIn oids ((v, k) :: reps) r =
      endingIn oids reps r ++ if itemsAfter oids v.name = r then [k] else [] := by
  by_cases h : itemsAfter oids v.name = r <;> simp [endingIn, h]

lemma EndedBefore.note (hended : EndedBefore oids reps r eomSent) (hk : k ∉ reps.map Prod.snd) :
    EndedBefore oids reps r (k :: eomSent) := by
  intro p hp
  have hne : p.2 ≠ k := fun h => hk (h ▸ mem_map_of_mem (f := Prod.snd) hp)
  rw [← hended p hp, mem_cons, or_iff_right hne]

lemma all_ended_of_length
    (hcount : eomSent.length = reps.countP fun p => itemsAfter oids p.1.name < r)
    (hlen : eomSent.length = reps.length) : ∀ p ∈ reps, itemsAfter oids p.1.name < r := by
  have hall := countP_eq_length.mp (hcount.symm.trans hlen)
  exact fun p hp => of_decide_eq_true (hall p hp)

lemma length_endingIn_append
    (hcount : eomSent.length = reps.countP fun p => itemsAfter oids p.1.name < r) :
    (endingIn oids reps r ++ eomSent).length =
      reps.countP fun p => itemsAfter oids p.1.name < r + 1 := by
  have hsum : (reps.countP fun p => itemsAfter oids p.1.name = r) +
      (reps.countP fun p => itemsAfter oids p.1.name < r) =
        reps.countP fun p => itemsAfter oids p.1.name < r + 1 := by
    clear hcount
    induction reps with
    | nil => rfl
    | cons p reps ih =>
      simp only [countP_cons, decide_eq_true_eq]
      split_ifs <;> omega
  rw [length_append, hcount, endingIn, length_reverse, length_map, ← countP_eq_length_filter, hsum]

lemma row_eq_nil {reps : List SnmpPDU} {r : ℕ} (h : ∀ v ∈ reps, itemsAfter oids v.name < r) :
    row oids reps r = [] := by
  have hnil : (reps.filter fun v => r ≤ itemsAfter oids v.name) = [] :=
    filter_eq_nil_iff.mpr fun v hv => by simpa using h v hv
  rw [row, hnil, map_nil]

variable (hsorted : SortedTable oids) (hdistinct : (oids.map key).Nodup)
include hsorted hdistinct

variable (hnames : ∀ p ∈ reps, (oidToByteString p.1.name).isSome)
  (hpos : (reps.map Prod.snd).Nodup)
include hnames hpos

lemma bulkRound_eq (r : ℕ) (hended : EndedBefore oids reps r eomSent) (resp : SnmpPacket) :
    bulkRound oids reps r (resp, eomSent) = do
      return (← addSlots (row oids (reps.map Prod.fst) r) resp,
        endingIn oids reps r ++ eomSent) := by
  induction reps generalizing resp eomSent with
  | nil => simp [bulkRound, row, endingIn]
  | cons p reps ih =>
    obtain ⟨v, k⟩ := p
    have hname := hnames (v, k) mem_cons_self
    have hnone := successor_eq_none_iff hsorted hdistinct hname r
    obtain ⟨hk, hpos⟩ : k ∉ reps.map Prod.snd ∧ (reps.map Prod.snd).Nodup :=
      nodup_cons.mp hpos
    have hv : k ∈ eomSent ↔ itemsAfter oids v.name < r := hended (v, k) mem_cons_self
    have ih {ended : List ℕ} := @ih ended (fun p hp => hnames p (mem_cons_of_mem _ hp)) hpos
    have hrest : EndedBefore oids reps r eomSent :=
      fun p hp => hended p (mem_cons_of_mem _ hp)
    obtain ⟨q, hq⟩ := Option.isSome_iff_exists.mp hname
    have hat := getElem?_walkFrom hsorted hdistinct hq r
    rw [bulkRound, foldlM_cons, map_cons, row_cons, addSlots_append, endingIn_cons]
    simp only [hat]
    cases hs : successor oids r v.name with
    | some item =>
      have hlt : r < itemsAfter oids v.name := by simpa [hs] using hnone
      rw [if_pos hlt.le, if_neg hlt.ne', addSlots_singleton, append_nil]
      simp only [evalSlot, bind_assoc, pure_bind]
      exact bind_congr fun pdu => ih hrest (resp.append pdu)
    | none =>
      have hle : itemsAfter oids v.name ≤ r := hnone.mp hs
      by_cases hmem : k ∈ eomSent
      · have hlt := hv.mp hmem
        rw [if_neg (not_le.mpr hlt), if_neg hlt.ne, addSlots_nil, append_nil]
        simp only [hmem, if_true, pure_bind]
        exact ih hrest resp
      · have heq : itemsAfter oids v.name = r := le_antisymm hle (not_lt.mp (mt hv.mpr hmem))
        rw [if_pos heq.ge, if_pos heq, addSlots_singleton, append_assoc]
        simp only [evalSlot, hmem, if_false, pure_bind]
        exact ih (hrest.note hk) _

lemma bulkRounds_eq (left r : ℕ) (hended : EndedBefore oids reps r eomSent)
    (hcount : eomSent.length = reps.countP fun p => itemsAfter oids p.1.name < r)
    (resp : SnmpPacket) :
    bulkRounds oids reps left r (resp, eomSent) =
      addSlots ((List.range' r left).flatMap (row oids (reps.map Prod.fst))) resp := by
  induction left generalizing r eomSent resp with
  | zero => rfl
  | succ left ih =>
    rw [bulkRounds, bulkRound_eq hsorted hdistinct hnames hpos r hended, List.range'_succ,
      flatMap_cons, addSlots_append]
    simp only [bind_assoc, pure_bind]
    refine bind_congr fun resp => ?_
    have hcount' := length_endingIn_append hcount
    split
    · rename_i hlen
      -- The agent stops here; the rows it does not make would be empty.
      have hall := all_ended_of_length hcount' hlen
      have hnil : (List.range' (r + 1) left).flatMap (row oids (reps.map Prod.fst)) = [] := by
        refine flatMap_eq_nil_iff.mpr fun r' hr' => row_eq_nil fun v hv => ?_
        obtain ⟨p, hp, rfl⟩ := mem_map.mp hv
        exact (hall p hp).trans_le (mem_range'_1.mp hr').1
      rw [hnil, addSlots_nil]
    · exact ih (r + 1) (hended.succ hpos) hcount' resp

omit hnames hpos in
lemma serveGetBulk_eq {req : SnmpPacket}
    (hnames : ∀ v ∈ req.vars, (oidToByteString v.name).isSome) :
    serveGetBulk oids req = addSlots (agentSlots oids req) (responseFor req) := by
  have hfirst : (req.vars.take (nonRepeaters req)).foldlM
      (fun resp v => do
        match oids[walkFrom oids v.name]? with
        | none => return resp.append (endOfMibView v.name)
        | some item => return resp.append (← get item)) (responseFor req) =
      addSlots ((req.vars.take (nonRepeaters req)).map fun v => (v.name, nextItem oids v.name))
        (responseFor req) := by
    rw [addSlots, foldlM_map]
    congr 1
    funext resp v
    cases h : oids[walkFrom oids v.name]? <;> simp [nextItem, h, evalSlot]
  have hdrop : (req.vars.zipIdx.drop (nonRepeaters req)).map Prod.fst = repeaters req := by
    rw [map_drop, zipIdx_map_fst, repeaters]
  rw [serveGetBulk, agentSlots, addSlots_append, ← hfirst]
  refine bind_congr fun resp => ?_
  have hreps : ∀ p ∈ req.vars.zipIdx.drop (nonRepeaters req), (oidToByteString p.1.name).isSome :=
    fun p hp => hnames p.1 (mem_of_mem_drop (hdrop ▸ mem_map_of_mem hp))
  have hpos : ((req.vars.zipIdx.drop (nonRepeaters req)).map Prod.snd).Nodup := by
    rw [map_drop, zipIdx_map_snd]
    have hrange : (List.range' 0 req.vars.length).Nodup := nodup_range'
    exact hrange.sublist (drop_sublist _ _)
  have hnone : EndedBefore oids (req.vars.zipIdx.drop (nonRepeaters req)) 0 [] :=
    fun p _ => by simp
  have hrounds := bulkRounds_eq hsorted hdistinct hreps hpos
    (min req.maxRepetitions.toNat oids.length) 0 hnone (by simp) resp
  rw [hdrop] at hrounds
  rw [range_eq_range']
  exact hrounds

end Rounds

/-! ## Names and places -/

def slotName (slot : Slot W) : GoString := slot.2.elim slot.1 oid

variable (w : World W)

lemma evalSlot_name : (evalSlot slot w).1.name = slotName slot := by
  obtain ⟨name, item⟩ := slot
  cases item with
  | none => rfl
  | some item => exact get_name item w

lemma addSlots_cons :
    addSlots (slot :: slots) resp w =
      addSlots slots (resp.append (evalSlot slot w).1) (evalSlot slot w).2 := by
  rw [addSlots, foldlM_cons]
  rfl

lemma addSlots_names :
    (addSlots slots resp w).1.vars.map SnmpPDU.name =
      resp.vars.map SnmpPDU.name ++ slots.map slotName := by
  induction slots generalizing resp w with
  | nil => simp [pure, StateT.pure]
  | cons slot slots ih =>
    rw [addSlots_cons, ih, SnmpPacket.append, map_append, map_singleton, evalSlot_name,
      append_assoc, singleton_append, map_cons]

lemma answerSlots_names (req : SnmpPacket) (slots : List (Slot W)) (w : World W) :
    ∃ resp w', answerSlots req slots w = (some resp, w') ∧
      resp.vars.map SnmpPDU.name = slots.map slotName :=
  ⟨_, _, rfl, addSlots_names slots (responseFor req) w⟩

lemma addSlots_error : (addSlots slots resp w).1.error = resp.error := by
  induction slots generalizing resp w with
  | nil => rfl
  | cons slot slots ih => rw [addSlots_cons, ih, SnmpPacket.append]

lemma getElem?_flatMap_range {α : Type*} {f : ℕ → List α} {width : ℕ}
    (hlen : ∀ r, (f r).length = width) {n r : ℕ} (hr : r < n) (hk : k < width) :
    ((List.range n).flatMap f)[r * width + k]? = (f r)[k]? := by
  have hlength : ∀ n, ((List.range n).flatMap f).length = n * width := fun n => by
    simp [length_flatMap, hlen]
  induction n with
  | zero => omega
  | succ n ih =>
    rw [range_succ, flatMap_append, flatMap_singleton]
    rcases Nat.lt_succ_iff_lt_or_eq.mp hr with hlt | rfl
    · have hin : r * width + k < n * width := by nlinarith
      rw [List.getElem?_append_left (by rwa [hlength]), ih hlt]
    · rw [List.getElem?_append_right (by rw [hlength]; omega), hlength]
      congr 1
      omega

lemma getElem?_bulkSlots {req : SnmpPacket} {rounds r : ℕ} {v : SnmpPDU} (hr : r < rounds)
    (hk : (repeaters req)[k]? = some v) :
    (bulkSlots oids req rounds)[nonRepeaters req + r * (repeaters req).length + k]? =
      some (v.name, successor oids r v.name) := by
  have hfirst : ((req.vars.take (nonRepeaters req)).map fun v =>
      (v.name, nextItem oids v.name)).length = nonRepeaters req := by
    simp [nonRepeaters]
  have hlt : k < (repeaters req).length := (List.getElem?_eq_some_iff.mp hk).1
  rw [bulkSlots, List.getElem?_append_right (by omega), hfirst,
    show nonRepeaters req + r * (repeaters req).length + k - nonRepeaters req =
      r * (repeaters req).length + k by omega,
    getElem?_flatMap_range (fun r => length_map _) hr hlt, List.getElem?_map, hk]
  rfl

/-! ## Where the agent's rows are those of the walks -/

/-- Every row comes before, or with, the end of every repeater, and the table has not fewer items
than there are rows. -/
def Aligned (oids : List (PduItem W)) (req : SnmpPacket) (rounds : ℕ) : Prop :=
  ∀ v ∈ repeaters req, rounds ≤ itemsAfter oids v.name + 1 ∧ rounds ≤ oids.length

lemma flatMap_range_min {α : Type*} (f : ℕ → List α) (n m : ℕ) :
    (List.range (min n m)).flatMap f =
      (List.range n).flatMap fun r => if r < m then f r else [] := by
  induction n with
  | zero => simp
  | succ n ih =>
    rw [range_succ, flatMap_append, ← ih, flatMap_singleton]
    rcases lt_or_ge n m with h | h
    · rw [min_eq_left (by omega), min_eq_left h.le, range_succ, flatMap_append,
        flatMap_singleton, if_pos h]
    · rw [min_eq_right (by omega), min_eq_right h, if_neg (by omega), append_nil]

section Compare

variable {req : SnmpPacket} {r₀ : ℕ}

lemma length_row_le (reps : List SnmpPDU) (r : ℕ) : (row oids reps r).length ≤ reps.length := by
  rw [row, length_map]
  exact length_filter_le _ _

lemma length_row_lt {reps : List SnmpPDU} {r : ℕ} {v : SnmpPDU} (hv : v ∈ reps)
    (h : itemsAfter oids v.name < r) : (row oids reps r).length < reps.length := by
  rw [row, length_map]
  exact length_filter_lt_length_iff_exists.mpr ⟨v, hv, by simpa using h⟩

lemma row_eq_map {reps : List SnmpPDU} {r : ℕ} (h : ∀ v ∈ reps, r ≤ itemsAfter oids v.name) :
    row oids reps r = reps.map fun v => (v.name, successor oids r v.name) := by
  rw [row, filter_eq_self.mpr fun v hv => by simpa using h v hv]

variable (hlast : ∀ v ∈ repeaters req, itemsAfter oids v.name ≤ r₀)
include hlast

lemma agentSlots_eq_of_aligned
    (h : Aligned oids req (min req.maxRepetitions.toNat (r₀ + 1))) :
    agentSlots oids req = bulkSlots oids req (min req.maxRepetitions.toNat (r₀ + 1)) := by
  rw [agentSlots, bulkSlots, flatMap_range_min, flatMap_range_min]
  congr 1
  refine flatMap_congr fun r hr => ?_
  have hr : r < req.maxRepetitions.toNat := mem_range.mp hr
  rcases lt_or_ge r (r₀ + 1) with hrow | hafter
  · rw [if_pos hrow]
    rcases hreps : repeaters req with _ | ⟨v, rest⟩
    · simp [row]
    · rw [← hreps, if_pos (by have := (h v (hreps ▸ mem_cons_self)).2; omega)]
      exact row_eq_map fun v hv => by have := (h v hv).1; omega
  · rw [row_eq_nil fun v hv => (hlast v hv).trans_lt hafter, ite_self, if_neg (by omega)]

/-- In an incomplete round the agent makes fewer variables than the row has. -/
lemma length_agentSlots_lt
    (h : ¬ Aligned oids req (min req.maxRepetitions.toNat (r₀ + 1))) :
    (agentSlots oids req).length <
      (bulkSlots oids req (min req.maxRepetitions.toNat (r₀ + 1))).length := by
  have hle : ∀ r, (if r < oids.length then row oids (repeaters req) r else []).length ≤
      (if r < r₀ + 1 then (repeaters req).map fun v => (v.name, successor oids r v.name)
        else []).length := by
    intro r
    rcases lt_or_ge r (r₀ + 1) with hrow | hafter
    · rw [if_pos hrow, length_map]
      split
      · exact length_row_le _ _
      · exact Nat.zero_le _
    · rw [row_eq_nil fun v hv => (hlast v hv).trans_lt hafter, ite_self]
      exact Nat.zero_le _
  obtain ⟨v, hv, r, hr, hshort⟩ : ∃ v ∈ repeaters req, ∃ r < min req.maxRepetitions.toNat (r₀ + 1),
      itemsAfter oids v.name < r ∨ oids.length ≤ r := by
    simp only [Aligned, not_forall] at h
    obtain ⟨v, hv, hlt⟩ := h
    exact ⟨v, hv, min req.maxRepetitions.toNat (r₀ + 1) - 1, by omega, by omega⟩
  have hlt : (if r < oids.length then row oids (repeaters req) r else []).length <
      (if r < r₀ + 1 then (repeaters req).map fun v => (v.name, successor oids r v.name)
        else []).length := by
    rw [if_pos (show r < r₀ + 1 by omega), length_map]
    split
    · exact length_row_lt hv (by omega)
    · exact length_pos_of_mem hv
  rw [agentSlots, bulkSlots, flatMap_range_min, flatMap_range_min, length_append,
    length_append, length_flatMap, length_flatMap]
  exact Nat.add_lt_add_left (sum_lt_sum _ _ (fun r _ => hle r)
    ⟨r, mem_range.mpr (by omega), hlt⟩) _

end Compare

lemma exists_firstExhausted (hsorted : SortedTable oids) (hdistinct : (oids.map key).Nodup)
    {reps : List SnmpPDU} (hnames : ∀ v ∈ reps, (oidToByteString v.name).isSome) :
    ∃ r₀, FirstExhausted oids reps r₀ := by
  have hex : ∃ r, ∀ v ∈ reps, itemsAfter oids v.name ≤ r :=
    ⟨oids.length, fun v _ => length_filter_le _ _⟩
  classical
  refine ⟨Nat.find hex, fun v hv => ?_, fun r hr => ?_⟩
  · exact (successor_eq_none_iff hsorted hdistinct (hnames v hv) _).mpr (Nat.find_spec hex v hv)
  · have hnot := Nat.find_min hex hr
    simp only [not_forall] at hnot
    obtain ⟨v, hv, hlt⟩ := hnot
    exact ⟨v, hv, mt (successor_eq_none_iff hsorted hdistinct (hnames v hv) r).mp hlt⟩

lemma serve_getBulk (hsorted : SortedTable oids) (hdistinct : (oids.map key).Nodup)
    {req : SnmpPacket} (htype : req.pduType = .getBulkRequest)
    (hnames : ∀ v ∈ req.vars, (oidToByteString v.name).isSome) (w : World W) :
    serve oids req w = answerSlots req (agentSlots oids req) w := by
  have herr : (addSlots (agentSlots oids req) (responseFor req) w).1.error = .noError :=
    addSlots_error _ _ w
  simp only [serve, htype, serveGetBulk_eq hsorted hdistinct hnames, bind, StateT.bind, pure,
    StateT.pure, answerSlots]
  generalize addSlots (agentSlots oids req) (responseFor req) w = out at herr
  obtain ⟨resp, w'⟩ := out
  have herr : resp.error = .noError := herr
  simp [herr]

/-- **The answers are the rows of the walks exactly if every row is complete.** -/
theorem getBulk_iff_aligned (hsorted : SortedTable oids) (hdistinct : (oids.map key).Nodup)
    {req : SnmpPacket} (htype : req.pduType = .getBulkRequest)
    (hnames : ∀ v ∈ req.vars, (oidToByteString v.name).isSome) (w : World W) :
    ∃ r₀, FirstExhausted oids (repeaters req) r₀ ∧
      (serve oids req w =
          answerSlots req (bulkSlots oids req (min req.maxRepetitions.toNat (r₀ + 1))) w ↔
        Aligned oids req (min req.maxRepetitions.toNat (r₀ + 1))) ∧
      (Aligned oids req (min req.maxRepetitions.toNat (r₀ + 1)) →
        ∃ resp w', serve oids req w = (some resp, w') ∧
          ∀ r < min req.maxRepetitions.toNat (r₀ + 1), ∀ k v, (repeaters req)[k]? = some v →
            (resp.vars[nonRepeaters req + r * (repeaters req).length + k]?).map SnmpPDU.name =
              some (slotName (v.name, successor oids r v.name))) := by
  have hreps : ∀ v ∈ repeaters req, (oidToByteString v.name).isSome :=
    fun v hv => hnames v (mem_of_mem_drop hv)
  obtain ⟨r₀, hr₀⟩ := exists_firstExhausted hsorted hdistinct hreps
  have hlast : ∀ v ∈ repeaters req, itemsAfter oids v.name ≤ r₀ := fun v hv =>
    (successor_eq_none_iff hsorted hdistinct (hreps v hv) r₀).mp (hr₀.ended v hv)
  have hserve := serve_getBulk hsorted hdistinct htype hnames w
  refine ⟨r₀, hr₀, ⟨fun heq => ?_, fun h => ?_⟩, fun h => ?_⟩
  · by_contra h
    obtain ⟨resp, w₁, h₁, hagent⟩ := answerSlots_names req (agentSlots oids req) w
    obtain ⟨resp', w₂, h₂, hbulk⟩ := answerSlots_names req (bulkSlots oids req _) w
    obtain rfl : resp = resp' := by
      have hsame := h₁.symm.trans (hserve.symm.trans (heq.trans h₂))
      exact Option.some_injective _ (congrArg Prod.fst hsame)
    have hlen := congrArg List.length (hagent.symm.trans hbulk)
    rw [length_map, length_map] at hlen
    have hlt := length_agentSlots_lt hlast h
    omega
  · rw [hserve, agentSlots_eq_of_aligned hlast h]
  · rw [agentSlots_eq_of_aligned hlast h] at hserve
    obtain ⟨resp, w', hresp, hbulk⟩ := answerSlots_names req (bulkSlots oids req _) w
    refine ⟨resp, w', hserve.trans hresp, fun r hr k v hk => ?_⟩
    rw [← List.getElem?_map, hbulk, List.getElem?_map, getElem?_bulkSlots hr hk, Option.map_some]

end

/-! ## A row that is too short -/

def getBulkRequest (maxRepetitions : UInt32) (names : List GoString) : SnmpPacket where
  version := .version2c
  pduType := .getBulkRequest
  maxRepetitions := maxRepetitions
  vars := names.map fun n => ⟨n, .null, .nil⟩

def threeItems : List (PduItem Stored) :=
  buildOIDs plainRuntime (mocksFor [go "1.1", go "1.2", go "1.3"])

lemma threeItems_sorted : SortedTable threeItems := by
  unfold SortedTable
  decide

/-- Repeaters that come to their ends in the same round. -/
theorem getBulk_iff_aligned_same :
    ∃ r₀, FirstExhausted threeItems (repeaters (getBulkRequest 9 [go "1.1", go ".1.1"])) r₀ ∧
      serve threeItems (getBulkRequest 9 [go "1.1", go ".1.1"]) ⟨⟨∅, 0⟩, []⟩ =
        answerSlots (getBulkRequest 9 [go "1.1", go ".1.1"])
          (bulkSlots threeItems (getBulkRequest 9 [go "1.1", go ".1.1"]) (min 9 (r₀ + 1)))
          ⟨⟨∅, 0⟩, []⟩ := by
  have htype : (getBulkRequest 9 [go "1.1", go ".1.1"]).pduType = .getBulkRequest := rfl
  obtain ⟨r₀, hr₀, hiff, -⟩ := getBulk_iff_aligned threeItems_sorted (by decide) htype (by decide)
    ⟨⟨∅, 0⟩, []⟩
  refine ⟨r₀, hr₀, hiff.mpr ?_⟩
  obtain rfl : r₀ = 2 := hr₀.unique (by decide)
  unfold Aligned
  decide

/-- **A repeater that has ended is missing in the next row.** -/
theorem getBulk_drops_marker :
    SortedTable threeItems ∧ (threeItems.map key).Nodup ∧
    FirstExhausted threeItems (repeaters (getBulkRequest 9 [go "1.3", go "1.2"])) 1 ∧
    ((serve threeItems (getBulkRequest 9 [go "1.3", go "1.2"]) ⟨⟨∅, 0⟩, []⟩).1.map fun resp =>
      resp.vars.map fun v => (v.name, v.type)) =
        some [(go "1.3", .endOfMibView), (go "1.3", .octetString), (go "1.2", .endOfMibView)] ∧
    (bulkSlots threeItems (getBulkRequest 9 [go "1.3", go "1.2"]) (min 9 (1 + 1))).map slotName =
      [go "1.3", go "1.3", go "1.3", go "1.2"] :=
  ⟨threeItems_sorted, by decide, by decide, by decide, by decide⟩

end Mockly.SNMP

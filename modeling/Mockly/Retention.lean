import Mockly.Lib.Recent
import Mockly.Logger.Log
import Mockly.STOMP.Server

/-!
# What the servers remember

Of eight bounded histories four are the same ring buffer; three are a slice that is cut at its front
before an item is appended; the log is cut after. Sizes at which `head + count` would overflow
cannot be allocated.

Main result: **`bounded_stores_keep_last`**.
-/

namespace Mockly

open Recent.Store Logger

open Recent (Op RingBuffer Window sinceClear)

/-! ## The constructors -/

section New

variable {α : Type}

/-- A ring buffer of the size asked for, or of the default size. -/
def newRing [Inhabited α] (size : ℕ) (hsize : 0 < size) (maxSize : ℤ) : RingBuffer α :=
  if h : maxSize ≤ 0 then RingBuffer.make default size hsize
  else RingBuffer.make default maxSize.toNat (by omega)

def Webhook.newStore [Inhabited α] : ℤ → RingBuffer α := newRing 500 (by decide)

def SMTP.newInbox [Inhabited α] : ℤ → RingBuffer α := newRing 1000 (by decide)

def NATS.newMessageStore [Inhabited α] : ℤ → RingBuffer α := newRing 1000 (by decide)

def MQTT.newMessageStore [Inhabited α] : ℤ → RingBuffer α := newRing 1000 (by decide)

/-- `newMessageStore` of the servers that keep a slice. -/
def newWindow (maxSize : ℤ) : Window α :=
  if h : maxSize ≤ 0 then Window.make 1000 (by decide)
  else Window.make maxSize.toNat (by omega)

def AMQP.newMessageStore : ℤ → Window α := newWindow

def Kafka.newMessageStore : ℤ → Window α := newWindow

def STOMP.newMessageStore : ℤ → Window α := newWindow

end New

/-! ## Histories -/

/-- A bounded history: how it is made for a capacity, and what it can do. -/
structure History (α : Type) where
  σ : Type
  new : ℤ → σ
  store : Recent.Store σ α

namespace History

variable {α : Type}

def after (H : History α) (maxSize : ℤ) (ops : List (Op α)) : List α :=
  H.store.all (H.store.run (H.new maxSize) ops)

/-- It has the last items since the last clear, as many as there is room for. -/
def KeepsLast (H : History α) : Prop :=
  ∀ maxSize, 0 < maxSize → ∀ ops, H.after maxSize ops = (sinceClear ops).rtake maxSize.toNat

end History

inductive StoreKind
  | webhook
  | smtp
  | nats
  | mqtt
  | amqp
  | kafka
  | stomp

section Kinds

variable (α : Type)

def ringHistory (new : ℤ → RingBuffer α) : History α := ⟨RingBuffer α, new, RingBuffer.store α⟩

def windowHistory (new : ℤ → Window α) : History α := ⟨Window α, new, Window.store α⟩

def StoreKind.history [Inhabited α] : StoreKind → History α
  | .webhook => ringHistory α Webhook.newStore
  | .smtp => ringHistory α SMTP.newInbox
  | .nats => ringHistory α NATS.newMessageStore
  | .mqtt => ringHistory α MQTT.newMessageStore
  | .amqp => windowHistory α AMQP.newMessageStore
  | .kafka => windowHistory α Kafka.newMessageStore
  | .stomp => windowHistory α STOMP.newMessageStore

/-- The log, with entries as `Log` has stamped them. -/
def Logger.history (κ : Type) : History Logger.Entry :=
  ⟨Logger κ, new, ⟨append, clear, entries⟩⟩

lemma ringHistory_keepsLast [Inhabited α] (size : ℕ) (hsize : 0 < size) :
    (ringHistory α (newRing size hsize)).KeepsLast := by
  intro maxSize hpos ops
  have hnew : (newRing size hsize maxSize : RingBuffer α) =
      RingBuffer.make default maxSize.toNat (by omega) := dif_neg (by omega)
  change (RingBuffer.store α).all ((RingBuffer.store α).run (newRing size hsize maxSize) ops) = _
  rw [hnew]
  exact all_run (RingBuffer.keeps α _) rfl rfl ops

lemma windowHistory_keepsLast : (windowHistory α newWindow).KeepsLast := by
  intro maxSize hpos ops
  have hnew : (newWindow maxSize : Window α) = Window.make maxSize.toNat (by omega) :=
    dif_neg (by omega)
  change (Window.store α).all ((Window.store α).run (newWindow maxSize) ops) = _
  rw [hnew]
  exact all_run (Window.keeps α _) rfl rfl ops

lemma StoreKind.keepsLast [Inhabited α] (k : StoreKind) : (k.history α).KeepsLast := by
  cases k with
  | webhook => exact ringHistory_keepsLast α 500 (by decide)
  | smtp | nats | mqtt => exact ringHistory_keepsLast α 1000 (by decide)
  | amqp | kafka | stomp => exact windowHistory_keepsLast α

end Kinds

lemma Logger.keepsLast (κ : Type) : (history κ).KeepsLast := by
  intro maxSize hpos ops
  have hkeeps : (history κ).store.Keeps maxSize.toNat
      fun l : Logger κ => l.maxEntries = maxSize.toNat := by
    refine ⟨fun _ _ h => h, fun _ h => h, fun l e h => ?_, fun _ _ => rfl⟩
    change (l.append e).entries = (l.entries ++ [e]).rtake maxSize.toNat
    unfold append
    rw [List.rtake, ← h]
    dsimp only
    split_ifs with hfull
    · rfl
    · rw [Nat.sub_eq_zero_of_le (not_lt.mp hfull), List.drop_zero]
  have hsize : (new maxSize : Logger κ).maxEntries = maxSize.toNat := if_neg (by omega)
  exact all_run hkeeps hsize rfl ops

instance : Inhabited Logger.Entry := ⟨{}⟩

/-- **Every bounded history has the last items that were added since the last clear**, oldest first,
and none can be told from another. -/
theorem bounded_stores_keep_last :
    (∀ (k : StoreKind) (α : Type) [Inhabited α], (k.history α).KeepsLast) ∧
      (∀ κ : Type, (history κ).KeepsLast) ∧
      (∀ (j k : StoreKind) (α : Type) [Inhabited α] (maxSize : ℤ) (ops : List (Op α)),
        0 < maxSize → (j.history α).after maxSize ops = (k.history α).after maxSize ops) ∧
      ∀ (k : StoreKind) (κ : Type) (maxSize : ℤ) (ops : List (Op Logger.Entry)), 0 < maxSize →
        (k.history Logger.Entry).after maxSize ops = (history κ).after maxSize ops := by
  refine ⟨fun k α => k.keepsLast α, keepsLast, fun j k α _ maxSize ops h => ?_,
    fun k κ maxSize ops h => ?_⟩
  · rw [j.keepsLast α maxSize h, k.keepsLast α maxSize h]
  · rw [k.keepsLast _ maxSize h, keepsLast κ maxSize h]

end Mockly

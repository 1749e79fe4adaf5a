import Mockly.Go.Maps

/-!
# Topics and subjects

`matchMQTTTopic` and `matchNATSSubject` differ in the separator, in the wildcards, and in that the
MQTT one knows `#` alone beforehand.
-/

namespace Mockly.Brokers

def capture (f : GoString) : Option GoString :=
  if hasPrefix f (go "\x7b") && hasSuffix f (go "\x7d") then some (f.drop 1).dropLast else none

/-- The loop over the levels of the pattern, and the comparison of the lengths after it. -/
def matchLevels (single multi : GoString) :
    List GoString → List GoString → GoMap GoString → Option (GoMap GoString)
  | [], ts, params => if ts = [] then some params else none
  | f :: fs, ts, params =>
    if f = multi then some params
    else
      match ts with
      | [] => none
      | t :: ts =>
        if f = single then matchLevels single multi fs ts params
        else
          match capture f with
          | some name =>
            matchLevels single multi fs ts (if name = [] then params else params.set name t)
          | none => if f = t then matchLevels single multi fs ts params else none

def slash : UInt8 := 0x2F

def dot : UInt8 := 0x2E

/-- `matchMQTTTopic`: the captures, if the topic matches. -/
def matchMQTTTopic (filter topic : GoString) : Option (GoMap GoString) :=
  if filter = go "#" then some ∅
  else if filter = topic then some ∅
  else matchLevels (go "+") (go "#") (split filter slash) (split topic slash) ∅

def matchNATSSubject (pattern subject : GoString) : Option (GoMap GoString) :=
  if pattern = subject then some ∅
  else matchLevels (go "*") (go ">") (split pattern dot) (split subject dot) ∅

/-- Whether the NATS server gives a message to a subscription, token by token: `>` is for one token
or more, and only at the end. -/
def coversTokens : List GoString → List GoString → Bool
  | [], ts => ts.isEmpty
  | p :: ps, ts =>
    if p = go ">" then ps.isEmpty && !ts.isEmpty
    else
      match ts with
      | [] => false
      | t :: ts => (p == go "*" || p == t) && coversTokens ps ts

/-- Whether a subscription of the NATS server gets a subject. -/
def covers (pattern subject : GoString) : Bool :=
  coversTokens (split pattern dot) (split subject dot)

@[simp] lemma matchLevels_multi (single multi : GoString) (fs ts : List GoString)
    (params : GoMap GoString) : matchLevels single multi (multi :: fs) ts params = some params := by
  cases ts <;> exact if_pos rfl

lemma matchMQTTTopic_hash (topic : GoString) : matchMQTTTopic (go "#") topic = some ∅ := if_pos rfl

lemma matchNATSSubject_greater (subject : GoString) :
    matchNATSSubject (go ">") subject = some ∅ := by
  unfold matchNATSSubject
  split
  · rfl
  · rw [show split (go ">") dot = [go ">"] by decide, matchLevels_multi]

end Mockly.Brokers

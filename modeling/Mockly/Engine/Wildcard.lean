import Mockly.Engine.Match

/-!
# Patterns with a star

Empty and `*` are for everything, `re:` introduces a regular expression, and otherwise the first `*`
stands for any text. The Redis and the SMTP server differ a little.
-/

namespace Mockly

def star : UInt8 := 0x2A

/-- `strings.SplitN(pattern, "*", 2)`: what is before the first star. -/
def beforeStar (pattern : GoString) : GoString := pattern.takeWhile (· != star)

/-- `strings.SplitN(pattern, "*", 2)`: what is behind it. -/
def behindStar (pattern : GoString) : GoString := (pattern.dropWhile (· != star)).drop 1

def matchWildcard (env : Env) (pattern text : GoString) : Bool :=
  if pattern = [] ∨ pattern = go "*" then true
  else if isRegex pattern then matchRegex env pattern text
  else if contains pattern (go "*") then
    hasPrefix text (beforeStar pattern) &&
      (behindStar pattern == [] || hasSuffix text (behindStar pattern))
  else pattern == text

def matchAMQPRoutingKey (env : Env) (pattern key : GoString) : Bool := matchWildcard env pattern key

def matchKafkaTopic (env : Env) (pattern topic : GoString) : Bool := matchWildcard env pattern topic

def matchMemcachedKey (env : Env) (pattern key : GoString) : Bool := matchWildcard env pattern key

def matchRedisKey (env : Env) (pattern key : GoString) : Bool :=
  if pattern = go "*" then true
  else if isRegex pattern then matchRegex env pattern key
  else if contains pattern (go "*") then
    if !hasPrefix key (beforeStar pattern) then false
    else if behindStar pattern != [] && !hasSuffix key (behindStar pattern) then false
    else true
  else pattern == key

def matchSMTPPattern (env : Env) (pattern value : GoString) : Bool :=
  if isRegex pattern then matchRegex env pattern value
  else if contains pattern (go "*") then
    hasPrefix value (beforeStar pattern) &&
      (behindStar pattern == [] || hasSuffix value (behindStar pattern))
  else equalFold env.caseTable pattern value

example : matchWildcard .basic (go "orders-*-v1") (go "orders-created-v1") = true := by decide

end Mockly

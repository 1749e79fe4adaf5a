import Mockly.Go.Strings

/-!
# Slash-separated paths

Package `path`: lexical processing of paths with forward slashes.
-/

namespace Mockly

/-- One component of a path for `path.Clean`; the components kept so far are listed last first. -/
def cleanStep (rooted : Bool) (kept : List GoString) (c : GoString) : List GoString :=
  if c = [] ∨ c = go "." then kept
  else if c = go ".." then
    match kept with
    | [] => if rooted then [] else [c]
    | last :: rest => if last = go ".." then c :: kept else rest
  else c :: kept

/-- `path.Clean`. -/
def pathClean (p : GoString) : GoString :=
  let rooted := hasPrefix p (go "/")
  let kept := ((split p 0x2F).foldl (cleanStep rooted) []).reverse
  if rooted then go "/" ++ join kept (go "/")
  else if kept = [] then go "."
  else join kept (go "/")

/-- `path.Join` of two elements. -/
def pathJoin (a b : GoString) : GoString :=
  let elems := [a, b].filter (· ≠ [])
  if elems = [] then [] else pathClean (join elems (go "/"))

/-- `path.Dir`: what precedes the last slash, that included. -/
def pathDir (p : GoString) : GoString := pathClean (p.reverse.dropWhile (· != 0x2F)).reverse

/-- `path.Base`. -/
def pathBase (p : GoString) : GoString :=
  if p = [] then go "."
  else
    let last := ((trimRight p [0x2F]).reverse.takeWhile (· != 0x2F)).reverse
    if last = [] then go "/" else last

example : pathClean (go "/a//b/../c/.") = go "/a/c" := by decide

example : pathJoin (go "/a") (go "../../b") = go "/b" := by decide

end Mockly

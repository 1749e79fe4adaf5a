import Mockly.Go.Strings

/-!
# Sorting strings

`sort.Strings` orders strings byte by byte, which is the lexicographic order of lists.
-/

namespace Mockly

def sortStrings (ss : List GoString) : List GoString := ss.insertionSort (· ≤ ·)

lemma perm_sortStrings (ss : List GoString) : (sortStrings ss).Perm ss :=
  List.perm_insertionSort _ ss

lemma pairwise_sortStrings (ss : List GoString) : (sortStrings ss).Pairwise (· ≤ ·) :=
  List.pairwise_insertionSort _ ss

@[simp] lemma mem_sortStrings {ss : List GoString} {s : GoString} : s ∈ sortStrings ss ↔ s ∈ ss :=
  (perm_sortStrings ss).mem_iff

lemma nodup_sortStrings {ss : List GoString} : (sortStrings ss).Nodup ↔ ss.Nodup :=
  (perm_sortStrings ss).nodup_iff

end Mockly

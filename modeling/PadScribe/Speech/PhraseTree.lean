import PadScribe.Text.Point

/-!
# `Speech.PhraseTree` — a tree over spoken words

Phrases that share their first words share a path:

    turn
    └── off
        ├── screen       -> a
        ├── sound        -> b
        └── the
            └── computer -> c

A scan walks as deep as the words allow and answers with the deepest leaf on its way. The root's own leaf,
set under the empty phrase, is never an answer.

## Contents

* `PhraseTree`, `empty`, `insert`, `get?` — the tree as a map from phrases
* `scan` — the longest phrase that some words start with
* `toList` — every phrase and its leaf, in the order of the phrases
* `FallbackTree` — a tree with an answer for words that match nothing
-/

namespace PadScribe

/-- A tree whose paths are phrases and whose leaves are values. -/
inductive PhraseTree (α : Type) where
  | node (leaf : Option α) (children : List (String × PhraseTree α))

namespace PhraseTree

variable {α : Type}

/-- The tree without phrases. -/
def empty : PhraseTree α := node none []

instance : Inhabited (PhraseTree α) := ⟨empty⟩

/-- The value of the phrase that leads to a node. -/
def leaf : PhraseTree α → Option α
  | node l _ => l

/-- The words that lead on from a node. -/
def children : PhraseTree α → List (String × PhraseTree α)
  | node _ cs => cs

/-- The child under a word. -/
def child? (t : PhraseTree α) (word : String) : Option (PhraseTree α) :=
  t.children.lookup word

/-- The children with the one under `word` set: in place when it is there, at the end when it is new. -/
def setChild (word : String) (child : PhraseTree α) :
    List (String × PhraseTree α) → List (String × PhraseTree α)
  | [] => [(word, child)]
  | (w, c) :: rest => if w = word then (word, child) :: rest else (w, c) :: setChild word child rest

/-- The tree with a phrase set to a value. -/
def insert : List String → α → PhraseTree α → PhraseTree α
  | [], value, node _ cs => node (some value) cs
  | w :: ws, value, node l cs =>
    node l (setChild w (insert ws value ((cs.lookup w).getD empty)) cs)

/-- The value of a phrase. -/
def get? : List String → PhraseTree α → Option α
  | [], t => t.leaf
  | w :: ws, t => (t.child? w).bind (get? ws)

/-- The longest non-empty phrase that the words start with: how many words it has, and its value. -/
def scan : List String → PhraseTree α → Option (Nat × α)
  | [], _ => none
  | w :: ws, t =>
    match t.child? w with
    | none => none
    | some child =>
      match scan ws child with
      | some (n, value) => some (n + 1, value)
      | none => child.leaf.map (1, ·)

mutual

/-- Every phrase under a node and its value, with the words that lead to the node in front. -/
def entriesAt (path : List String) : PhraseTree α → List (List String × α)
  | node l cs => (l.map (path, ·)).toList ++ childEntries path cs

/-- Every phrase under some children of a node and its value. -/
def childEntries (path : List String) : List (String × PhraseTree α) → List (List String × α)
  | [] => []
  | (w, c) :: rest => entriesAt (path ++ [w]) c ++ childEntries path rest

end

/-- Whether one phrase comes before another or is the same, word by word and code point by code point. -/
def phraseLe (a b : List String) : Bool :=
  !decide (b.map Text.codes < a.map Text.codes)

/-- Every phrase and its value, in the order of the phrases. -/
def toList (t : PhraseTree α) : List (List String × α) :=
  (entriesAt [] t).mergeSort fun a b => phraseLe a.1 b.1

end PhraseTree

/-- A phrase tree with an answer for words that match nothing. -/
structure FallbackTree (α : Type) where
  tree : PhraseTree α := .empty
  fallback : Option α := none

namespace FallbackTree

variable {α : Type}

/-- The tree with a phrase set to a value. -/
def insert (phrase : List String) (value : α) (t : FallbackTree α) : FallbackTree α :=
  { t with tree := t.tree.insert phrase value }

/-- The longest phrase that the words start with, or the fallback, which uses no word. -/
def scan (words : List String) (t : FallbackTree α) : Option (Nat × α) :=
  match t.tree.scan words with
  | some r => some r
  | none => t.fallback.map (0, ·)

end FallbackTree

end PadScribe

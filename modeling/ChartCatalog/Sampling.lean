/-!
# Sampling

A random sample is the start of a random order. `shuffle` brings a list into
random order by exchanges from the back: the last place is filled with any of
the items, the place before it with any of the rest, and so on. `sample` takes
the first items of the shuffled list, so the choices made do not depend on how
many items are wanted.

The random source is a parameter. A `Chooser` gives a whole number up to a bound;
`WordSource.chooser` makes one from a stream of random words of 32 bits.
-/

namespace ChartCatalog

/-- A source of random choices with states in `σ`: a whole number from zero up
to and including the bound, and the next state. -/
structure Chooser (σ : Type) where
  choose : (last : Nat) → σ → Fin (last + 1) × σ

namespace Chooser

variable {σ : Type} {α : Type}

/-- The items after an exchange at each place from `i` down to the second one. -/
def shuffleFrom (chooser : Chooser σ) : Nat → Array α → σ → Array α × σ
  | 0, items, state => (items, state)
  | i + 1, items, state =>
    let (j, state) := chooser.choose (i + 1) state
    chooser.shuffleFrom i (items.swapIfInBounds (i + 1) j) state

/-- The items in random order. -/
def shuffle (chooser : Chooser σ) (items : List α) (state : σ) : List α × σ :=
  let (shuffled, state) := chooser.shuffleFrom (items.length - 1) items.toArray state
  (shuffled.toList, state)

/-- Up to `count` of the items in random order. -/
def sample (chooser : Chooser σ) (items : List α) (count : Nat) (state : σ) : List α × σ :=
  let (shuffled, state) := chooser.shuffle items state
  (shuffled.take count, state)

end Chooser

/-- A stream of random words with states in `σ`. -/
structure WordSource (σ : Type) where
  next : σ → UInt32 × σ

namespace WordSource

variable {σ : Type}

/-- The number of values of a word. -/
def wordRange : Nat := UInt32.size

/-- A choice among `last + 1` values by multiplication: the high part of word
times range is the choice. Where the low part leaves a bias of more than a word's
precision, a second word decides whether the low part would have carried. -/
def choose (source : WordSource σ) (last : Nat) (state : σ) : Fin (last + 1) × σ :=
  let range := last + 1
  let (word, state) := source.next state
  let product := word.toNat * range
  let high := product / wordRange
  let low := product % wordRange
  if wordRange - range < low then
    -- a second word extends the product downwards
    let (more, state) := source.next state
    let carry := (low + more.toNat * range / wordRange) / wordRange
    (⟨min (high + carry) last, by omega⟩, state)
  else (⟨min high last, by omega⟩, state)

/-- The random choices of a stream of words. -/
def chooser (source : WordSource σ) : Chooser σ := ⟨source.choose⟩

/-- The stream that repeats a list of words; its state is the number of words
taken. -/
def repeating (words : Array UInt32) : WordSource Nat :=
  ⟨fun taken => (words[taken % words.size]?.getD 0, taken + 1)⟩

/-- A stream that looks random, from any seed: the state runs through all words
of 64 bits, and each is mixed before its upper half is given out. -/
def mixing : WordSource UInt64 where
  next state :=
    let state := state + 0x9E3779B97F4A7C15
    let mixed := (state ^^^ (state >>> 30)) * 0xBF58476D1CE4E5B9
    let mixed := (mixed ^^^ (mixed >>> 27)) * 0x94D049BB133111EB
    (((mixed ^^^ (mixed >>> 31)) >>> 32).toUInt32, state)

end WordSource

end ChartCatalog

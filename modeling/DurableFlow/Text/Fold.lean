import DurableFlow.Text.CaseTable

/-!
Letters that differ only in case, by code point. Every code point has one lower case form; two code
points are the same letter when their lower case forms are equal or have the same upper case.
-/

namespace DurableFlow.Text

/-- The lower case form of one code point. -/
def lowerCode (n : Nat) : Nat := if n = 0x130 then 0x69 else shifted n lowerRuns

/-- The first code point of the upper case form. -/
def upperCode (n : Nat) : Nat :=
  match longUppers.find? (fun entry => entry.1 == n) with
  | some entry => entry.2.headD n
  | none => shifted n upperRuns

/-- Lower case forms with others that have the same upper case, such as the long s. -/
def lowerTwins : List (Nat × List Nat) :=
  [(105, [305]), (115, [383]), (181, [956]), (305, [105]), (383, [115]), (837, [953, 8126]),
   (912, [8147]), (944, [8163]), (946, [976]), (949, [1013]), (952, [977]), (953, [837, 8126]),
   (954, [1008]), (956, [181]), (960, [982]), (961, [1009]), (962, [963]), (963, [962]),
   (966, [981]), (976, [946]), (977, [952]), (981, [966]), (982, [960]), (1008, [954]),
   (1009, [961]), (1013, [949]), (1074, [7296]), (1076, [7297]), (1086, [7298]), (1089, [7299]),
   (1090, [7300, 7301]), (1098, [7302]), (1123, [7303]), (7296, [1074]), (7297, [1076]),
   (7298, [1086]), (7299, [1089]), (7300, [1090, 7301]), (7301, [1090, 7300]), (7302, [1098]),
   (7303, [1123]), (7304, [42571]), (7777, [7835]), (7835, [7777]), (8126, [837, 953]),
   (8147, [912]), (8163, [944]), (42571, [7304]), (64261, [64262]), (64262, [64261])]

/-- A lower case form and its twins. -/
def withTwins (n : Nat) : List Nat :=
  match lowerTwins.find? (fun entry => entry.1 == n) with
  | some entry => n :: entry.2
  | none => [n]

/-- The code points that a table of runs takes to the given one. -/
def runSources (n : Nat) : List (Nat × Nat × Nat × Int) → List Nat
  | [] => []
  | (first, last, stride, shift) :: rest =>
    let source := ((n : Int) - shift).toNat
    if first ≤ source && source ≤ last && (source - first) % stride == 0 then
      source :: runSources n rest
    else runSources n rest

/-- The code points whose lower case form is the given one. -/
def lowerSources (n : Nat) : List Nat :=
  (if lowerCode n = n then [n] else []) ++ (if n = 0x69 then [0x130] else []) ++
    runSources n lowerRuns

/-- The code points that are the same letter as a lower case form. -/
def sameLetter (n : Nat) : List Nat := (withTwins n).flatMap lowerSources

/-- The lower case form where only ASCII letters have a case. -/
def asciiLowerCode (n : Nat) : Nat := if 65 ≤ n && n ≤ 90 then n + 32 else n

end DurableFlow.Text

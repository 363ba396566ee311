import Covenant.Text.Runs

namespace Covenant.Text

/-- Groups `gap count step target`: of the code points after the gap, `count` ones that are `step` apart have the
lower-case forms from `target` on, which are as far apart. -/
def lowerTable : String := String.intercalate " "
  ["65 26 1 97 101 23 1 224 1 7 1 248 33 24 2 257 3 3 2 307 2 8 2 314 2 23 2 331 1 1 1 255 0 3 2 378",
   "3 1 1 595 0 2 2 387 1 1 1 596 0 1 1 392 1 2 1 598 0 1 1 396 2 1 1 477 0 1 1 601 0 1 1 603 0 1 1",
   "402 1 1 1 608 0 1 1 611 1 1 1 617 0 1 1 616 0 1 1 409 3 1 1 623 0 1 1 626 1 1 1 629 0 3 2 417 1",
   "1 1 640 0 1 1 424 1 1 1 643 2 1 1 429 1 1 1 648 0 1 1 432 1 2 1 650 0 2 2 436 1 1 1 658 0 1 1",
   "441 3 1 1 445 7 1 1 454 0 1 1 454 1 1 1 457 0 1 1 457 1 1 1 460 0 9 2 460 2 9 2 479 2 1 1 499 0",
   "2 2 499 1 1 1 405 0 1 1 447 0 20 2 505 1 1 1 414 1 9 2 547 7 1 1 11365 0 1 1 572 1 1 1 410 0 1 1",
   "11366 2 1 1 578 1 1 1 384 0 1 1 649 0 1 1 652 0 5 2 583 289 2 2 881 3 1 1 887 8 1 1 1011 6 1 1",
   "940 1 3 1 941 1 1 1 972 1 2 1 973 1 17 1 945 1 9 1 963 35 1 1 983 8 12 2 985 5 1 1 952 2 1 1",
   "1016 1 1 1 1010 0 1 1 1019 2 3 1 891 0 16 1 1104 0 32 1 1072 48 17 2 1121 9 27 2 1163 1 1 1 1231",
   "0 7 2 1218 2 48 2 1233 2 38 1 1377 2889 38 1 11520 1 1 1 11559 5 1 1 11565 722 80 1 43888 0 6 1",
   "5112 2202 43 1 4304 2 3 1 4349 320 75 2 7681 9 1 1 223 1 48 2 7841 9 8 1 7936 8 6 1 7952 10 8 1",
   "7968 8 8 1 7984 8 6 1 8000 11 4 2 8017 8 8 1 8032 24 8 1 8064 8 8 1 8080 8 8 1 8096 8 2 1 8112 0",
   "2 1 8048 0 1 1 8115 11 4 1 8050 0 1 1 8131 11 2 1 8144 0 2 1 8054 12 2 1 8160 0 2 1 8058 0 1 1",
   "8165 11 2 1 8056 0 2 1 8060 0 1 1 8179 297 1 1 969 3 1 1 107 0 1 1 229 6 1 1 8526 45 16 1 8560",
   "19 1 1 8580 818 26 1 9424 1840 48 1 11312 48 1 1 11361 1 1 1 619 0 1 1 7549 0 1 1 637 2 3 2",
   "11368 1 1 1 593 0 1 1 625 0 1 1 592 0 1 1 594 1 1 1 11379 2 1 1 11382 8 2 1 575 0 50 2 11393 8 2",
   "2 11500 4 1 1 11507 31053 23 2 42561 19 14 2 42625 135 7 2 42787 3 31 2 42803 10 2 2 42874 1 1 1",
   "7545 0 5 2 42879 4 1 1 42892 1 1 1 613 2 2 2 42897 3 10 2 42903 1 1 1 614 0 1 1 604 0 1 1 609 0",
   "1 1 620 0 1 1 618 1 1 1 670 0 1 1 647 0 1 1 669 0 1 1 43859 0 8 2 42933 1 1 1 42900 0 1 1 642 0",
   "1 1 7566 0 2 2 42952 6 1 1 42961 5 2 2 42967 28 1 1 42998 22315 26 1 65345 1221 40 1 66600 136",
   "36 1 66776 156 11 1 66967 1 15 1 66979 1 7 1 66995 1 2 1 67003 1770 51 1 68800 3053 32 1 71872",
   "21888 32 1 93792 31392 34 1 125218"]

def casedTable : String := String.intercalate " "
  ["65 26 6 26 47 1 10 1 4 1 5 23 1 31 1 195 1 4 4 208 1 27 192 4 2 2 3 3 1 1 6 1 1 3 1 1 1 20 1 83",
   "1 139 8 166 1 38 9 41 2839 38 1 1 5 1 2 43 2 3 672 86 2 6 2178 9 7 43 2 3 64 44 63 13 1 34 101",
   "278 2 6 2 38 2 6 2 8 1 1 1 1 1 1 1 31 2 53 1 7 1 1 3 3 1 7 3 4 2 6 4 13 5 3 1 7 261 1 4 1 2 10 1",
   "1 3 5 6 1 1 1 1 1 1 4 1 6 4 1 2 4 5 5 4 1 17 32 3 2 817 52 1814 124 2 103 6 4 3 2 12 38 1 1 5 1",
   "30994 46 18 28 134 78 1 23 3 4 1 59 5 2 1 1 1 5 27 2 3 1 821 43 5 9 7 80 20288 7 12 5 1033 26 6",
   "26 1189 80 96 36 4 36 116 11 1 15 1 7 1 2 1 11 1 15 1 7 1 2 1731 51 13 51 2989 64 21856 64 25984",
   "85 1 71 1 2 2 1 2 2 2 4 1 12 1 1 1 7 1 65 1 4 2 8 1 7 1 28 1 4 1 5 1 1 3 7 1 340 2 25 1 25 1 31",
   "1 25 1 31 1 25 1 31 1 25 1 31 1 25 1 8 1844 10 1 20 2529 68 2028 26 6 26 6 26"]

def caseMarkTable : String := String.intercalate " "
  ["39 1 6 1 11 1 35 1 1 1 71 1 4 1 1 1 4 1 2 2 503 192 4 2 4 1 9 2 1 1 251 7 207 1 5 1 49 45 1 1 1",
   "2 1 2 1 1 44 1 11 6 10 11 1 1 35 1 10 21 16 1 101 8 1 10 1 4 33 1 1 1 30 27 91 11 58 11 4 1 2 1",
   "24 24 43 3 44 1 7 2 6 8 41 58 55 1 1 1 4 8 4 1 3 7 10 2 13 1 15 1 58 1 4 4 8 1 20 2 26 1 2 2 57",
   "1 4 2 4 2 2 3 3 1 30 2 3 1 11 2 57 1 4 5 1 2 4 1 20 2 22 6 1 1 58 1 2 1 1 4 8 1 7 2 11 2 30 1 61",
   "1 12 1 50 1 3 1 55 1 1 3 5 3 1 4 7 2 11 2 29 1 58 1 2 1 6 1 5 2 20 2 28 2 57 2 4 4 8 1 20 2 29 1",
   "72 1 7 3 1 1 90 1 2 7 11 9 98 1 2 9 9 1 1 6 74 2 27 1 1 1 1 1 55 14 1 5 1 2 5 11 1 36 9 1 102 4",
   "1 6 1 2 2 2 25 2 4 3 16 4 13 1 2 2 6 1 15 1 94 1 608 3 946 3 29 2 30 2 30 2 64 2 1 7 8 1 2 11 3",
   "1 5 1 45 5 51 1 65 2 34 1 118 3 4 2 9 1 6 3 219 2 2 1 58 1 1 7 1 1 1 1 2 8 6 10 2 1 39 1 8 31 49",
   "4 48 1 1 5 1 1 5 1 40 9 12 2 32 4 2 2 1 3 56 1 1 2 3 1 1 3 58 8 2 2 64 6 82 3 1 13 1 7 4 1 6 1 3",
   "2 50 63 13 1 34 101 445 1 1 3 11 3 13 3 13 3 13 2 12 5 8 2 10 1 2 1 2 5 49 5 1 10 1 1 13 1 16 13",
   "51 33 2955 2 113 3 125 1 15 1 96 32 47 1 469 1 36 4 3 5 5 1 93 6 93 3 28438 1 1250 6 270 1 98 4",
   "1 10 1 1 28 4 80 2 14 34 78 1 23 3 103 3 3 2 8 1 3 1 4 1 25 2 5 1 151 2 26 18 13 1 38 8 25 11 46",
   "3 48 1 2 4 2 2 17 1 21 2 66 6 2 2 2 2 12 1 8 1 35 1 11 1 51 1 1 3 2 2 5 2 1 1 27 1 14 2 5 2 1 1",
   "100 5 9 3 121 1 2 1 4 1 20272 1 147 17 573 16 3 1 12 16 34 1 2 1 169 1 7 1 6 1 11 1 35 1 1 1 47",
   "1 45 2 67 1 21 3 513 1 226 1 149 5 1029 6 1 42 1 9 582 3 1 2 5 4 40 3 4 1 165 2 573 4 387 2 153",
   "11 49 4 123 1 54 15 41 1 2 2 10 3 49 4 2 2 2 1 4 1 10 1 50 3 36 5 1 8 62 1 12 2 52 9 10 4 2 1 95",
   "3 2 1 1 2 6 1 160 1 3 8 21 2 57 2 3 1 37 7 3 5 195 8 2 3 1 1 23 1 84 6 1 1 4 2 1 2 238 4 6 2 1 2",
   "27 2 85 8 2 1 1 2 106 1 1 1 2 6 1 1 101 3 2 4 1 5 259 9 1 2 256 2 1 1 4 1 144 4 2 2 4 1 32 10 40",
   "6 2 4 8 1 9 6 2 3 46 13 1 2 406 7 1 6 1 1 82 22 2 7 1 2 1 2 122 6 3 1 1 2 1 7 1 1 72 2 3 1 1 1",
   "347 2 5435 9 14007 5 59 7 9 4 1035 1 63 17 64 2 1 2 16395 4 1 7 1 2 3230 2 1 4 4700 46 2 23 544",
   "3 9 16 2 7 30 4 148 3 1979 55 4 50 8 1 14 1 22 5 1 15 1360 7 1 17 2 7 1 2 1 5 261 14 368 1 61 4",
   "1504 7 109 8 2735 5 789505 1 30 96 128 240"]

structure LowerRun where
  first : Nat
  count : Nat
  step : Nat
  target : Nat
deriving Repr, DecidableEq

def LowerRun.find? (run : LowerRun) (code : Nat) : Option Nat :=
  let shift := code - run.first
  if run.first ≤ code && shift % run.step == 0 && shift / run.step < run.count then some (run.target + shift)
  else none

def lowerRunsFrom : Nat → List Nat → List LowerRun
  | start, gap :: count :: step :: target :: rest =>
    ⟨start + gap, count, step, target⟩ :: lowerRunsFrom (start + gap + (count - 1) * step + 1) rest
  | _, _ => []

def lowerRuns : List LowerRun := lowerRunsFrom 0 (numbers lowerTable)

def casedRuns : List Run := runs casedTable

def caseMarkRuns : List Run := runs caseMarkTable

def meetsCased (cs : List Char) : Bool :=
  match cs.dropWhile fun c => inRuns caseMarkRuns c.toNat with
  | c :: _ => inRuns casedRuns c.toNat
  | [] => false

def lowerChar (before : List Char) (c : Char) (after : List Char) : List Char :=
  if c.toNat == 0x130 then ['i', Char.ofNat 0x307]
  else if c.toNat == 0x3A3 then
    [Char.ofNat (if meetsCased before && !meetsCased after then 0x3C2 else 0x3C3)]
  else match lowerRuns.findSome? (·.find? c.toNat) with
    | some code => [Char.ofNat code]
    | none => [c]

def lowerFrom (before : List Char) : List Char → List Char
  | [] => []
  | c :: after => lowerChar before c after ++ lowerFrom (c :: before) after

def lower (s : String) : String :=
  String.ofList (lowerFrom [] s.toList)

end Covenant.Text

import InterRater.Text.Distances

/-!
# Categories of characters

The general categories of Unicode and the families they form.  Names are written in small letters
without separators.
-/

namespace InterRater

/-- A category that characters are assigned to. -/
structure Category where
  names : List String
  /-- The distances of the boundaries of its set. -/
  distances : List String

/-- The categories of the assigned characters, which are disjoint. -/
def categoryTable : List Category := [
  ⟨["cc", "control", "cntrl"],
    ["0 20 5f 21"]⟩,
  ⟨["cf", "format"],
    ["ad 1 552 6 16 1 c0 1 31 1 180 2 50 1 f2b 1 7fc 5 1a 5 31 5 1 a de8f 1 f9 3 10c1 1 f 1 2362",
     "10 8860 4 14cf 8 c2e86 1 1e 60"]⟩,
  ⟨["co", "privateuse"],
    ["e000 1900 e0700 fffe 2 fffe"]⟩,
  ⟨["ll", "lowercaseletter"],
    ["61 1a 3a 1 29 18 1 8 1 1 1 1 1 1 1 1 1 1 1 1 1 1 1 1 1 1 1 1 1 1 1 1 1 1 1 1 1 1 1 1 1 1 1 1",
     "1 1 1 1 1 1 1 1 1 1 1 1 1 1 1 1 1 1 1 2 1 1 1 1 1 1 1 1 1 1 1 1 1 1 1 2 1 1 1 1 1 1 1 1 1 1",
     "1 1 1 1 1 1 1 1 1 1 1 1 1 1 1 1 1 1 1 1 1 1 1 1 1 1 1 1 1 1 1 1 1 1 1 1 2 1 1 1 1 3 2 1 1 1",
     "2 1 3 2 4 1 2 1 3 3 2 1 2 1 1 1 1 1 2 1 1 2 1 1 2 1 3 1 1 1 2 2 2 3 6 1 2 1 2 1 1 1 1 1 1 1",
     "1 1 1 1 1 1 1 1 1 2 1 1 1 1 1 1 1 1 1 1 1 1 1 1 1 1 1 2 2 1 1 1 3 1 1 1 1 1 1 1 1 1 1 1 1 1",
     "1 1 1 1 1 1 1 1 1 1 1 1 1 1 1 1 1 1 1 1 1 1 1 1 1 1 1 1 1 1 1 1 1 1 1 1 1 1 1 1 1 1 1 1 1 7",
     "2 1 2 2 1 1 4 1 1 1 1 1 1 1 1 45 1 1b c1 1 1 1 3 1 3 3 12 1 1b 23 1 2 3 3 1 1 1 1 1 1 1 1 1",
     "1 1 1 1 1 1 1 1 1 1 1 1 1 1 5 1 1 2 1 2 2 33 30 1 1 1 1 1 1 1 1 1 1 1 1 1 1 1 1 1 1 1 1 1 1",
     "1 1 1 1 1 1 1 1 1 1 1 1 9 1 1 1 1 1 1 1 1 1 1 1 1 1 1 1 1 1 1 1 1 1 1 1 1 1 1 1 1 1 1 1 1 1",
     "1 1 1 1 1 1 1 1 1 1 1 1 1 1 1 1 1 1 1 1 2 1 1 1 1 1 1 1 1 1 1 1 1 2 1 1 1 1 1 1 1 1 1 1 1 1",
     "1 1 1 1 1 1 1 1 1 1 1 1 1 1 1 1 1 1 1 1 1 1 1 1 1 1 1 1 1 1 1 1 1 1 1 1 1 1 1 1 1 1 1 1 1 1",
     "1 1 1 1 1 1 1 1 1 1 1 1 1 1 1 1 1 1 1 1 1 1 1 1 1 1 1 1 1 1 1 1 1 1 1 1 1 1 30 29 b47 2b 2 3",
     "2f8 6 882 9 1 1 75 2c 3f d 1 22 66 1 1 1 1 1 1 1 1 1 1 1 1 1 1 1 1 1 1 1 1 1 1 1 1 1 1 1 1 1",
     "1 1 1 1 1 1 1 1 1 1 1 1 1 1 1 1 1 1 1 1 1 1 1 1 1 1 1 1 1 1 1 1 1 1 1 1 1 1 1 1 1 1 1 1 1 1",
     "1 1 1 1 1 1 1 1 1 1 1 1 1 1 1 1 1 1 1 1 1 1 1 1 1 1 1 1 1 1 1 1 1 1 1 1 1 1 1 1 1 1 1 1 1 1",
     "1 1 1 1 1 1 1 1 1 1 1 1 1 1 1 1 1 1 1 1 1 1 1 1 1 1 1 9 1 1 1 1 1 1 1 1 1 1 1 1 1 1 1 1 1 1",
     "1 1 1 1 1 1 1 1 1 1 1 1 1 1 1 1 1 1 1 1 1 1 1 1 1 1 1 1 1 1 1 1 1 1 1 1 1 1 1 1 1 1 1 1 1 1",
     "1 1 1 1 1 1 1 1 1 1 1 1 1 1 1 1 1 1 1 1 1 1 1 1 1 1 1 1 1 1 1 1 1 9 8 6 a 8 8 8 8 6 a 8 8 8",
     "8 e 2 8 8 8 8 8 8 5 1 2 6 1 3 3 1 2 8 4 2 2 8 8 a 3 1 2 112 1 3 2 3 1 1b 1 4 1 4 1 2 2 8 4 4",
     "1 35 1 aab 30 1 1 3 2 1 1 1 1 1 1 4 1 1 2 1 6 5 1 1 1 1 1 1 1 1 1 1 1 1 1 1 1 1 1 1 1 1 1 1",
     "1 1 1 1 1 1 1 1 1 1 1 1 1 1 1 1 1 1 1 1 1 1 1 1 1 1 1 1 1 1 1 1 1 1 1 1 1 1 1 1 1 1 1 1 1 1",
     "1 1 1 1 1 1 1 1 1 1 1 1 1 1 1 1 1 1 1 1 1 1 1 1 1 1 1 1 1 1 2 7 1 1 1 4 1 c 26 1 1 5 1 7913",
     "1 1 1 1 1 1 1 1 1 1 1 1 1 1 1 1 1 1 1 1 1 1 1 1 1 1 1 1 1 1 1 1 1 1 1 1 1 1 1 1 1 1 1 1 1 13",
     "1 1 1 1 1 1 1 1 1 1 1 1 1 1 1 1 1 1 1 1 1 1 1 1 1 1 1 87 1 1 1 1 1 1 1 1 1 1 1 1 3 1 1 1 1 1",
     "1 1 1 1 1 1 1 1 1 1 1 1 1 1 1 1 1 1 1 1 1 1 1 1 1 1 1 1 1 1 1 1 1 1 1 1 1 1 1 1 1 1 1 1 1 1",
     "1 1 1 1 1 1 1 1 1 1 1 1 8 1 1 1 1 2 1 1 1 1 1 1 1 1 1 4 1 1 1 2 1 1 3 1 1 1 1 1 1 1 1 1 1 1",
     "1 1 1 1 1 1 1 1 1 5 1 5 1 1 1 1 1 1 1 1 1 1 1 1 1 1 1 4 1 1 1 2 1 3 1 1 1 1 1 1 1 1 1 1 1 1a",
     "1 3 1 335 2b 5 9 7 50 4f40 7 c 5 429 1a 4cd 28 88 24 9b b 1 f 1 7 1 2 703 33 7d 16 b3a 20",
     "5580 20 659a 1a 1a 7 1 12 1a 1a 1a 4 1 1 1 7 1 b 1a 1a 1a 1a 1a 1a 1a 1a 1a 1a 1a 1a 1a 1a",
     "1a 1a 1a 1c 1c 19 1 6 1a 19 1 6 1a 19 1 6 1a 19 1 6 1a 19 1 6 1 1 734 a 1 14 6 6 9f7 22"]⟩,
  ⟨["lm", "modifierletter"],
    ["2b0 12 4 c e 5 7 1 1 1 85 1 5 1 1de 1 e6 1 a4 2 10d 2 4 1 1f 1 9 1 3 1 a0 1 a7 1 4d4 1 7f 1",
     "235 1 6da 1 6b 1 263 1 1d0 6 ae 3f d 1 22 25 2b1 1 d 1 10 d bdf 2 f1 1 bf 1 1d5 1 2b 5 5 1",
     "61 2 5d 3 6f16 1 4e2 6 10e 1 72 1 1c 2 79 9 50 1 17 1 69 3 3 2 1d5 1 16 1 89 1 6c 1 15 2 67",
     "4 9 1 5406 1 2d 2 7e0 6 1 2a 1 9 593 1 20 1 5dd0 4 1fc 3 28 2 226 d 40 2 1 1 400c 4 1 7 1 2",
     "3031 3e c9 7 3ad 1 45f 1"]⟩,
  ⟨["lo", "otherletter"],
    ["aa 1 f 1 100 1 4 4 d0 1 33b 1b 4 4 2d 20 1 a 23 2 1 63 1 1 18 2 a 3 2 1 10 1 1 1e 1d 59 b 1",
     "18 21 15 16 2a 19 7 b 5 18 1 6 11 29 3b 36 3 1 12 1 7 a 10 f 4 8 2 2 2 16 1 7 1 1 3 4 3 1 10",
     "1 d 2 1 3 e 2 a 1 8 6 4 2 2 16 1 7 1 2 1 2 1 2 1f 4 1 1 13 3 10 9 1 3 1 16 1 7 1 2 1 5 3 1",
     "12 1 f 2 17 1 b 8 2 2 2 16 1 7 1 2 1 5 3 1 1e 2 1 3 f 1 11 1 1 6 3 3 1 4 3 2 1 1 1 2 3 2 3 3",
     "3 c 16 1 34 8 1 3 1 17 1 10 3 1 1a 3 2 1 2 2 1e 1 4 8 1 3 1 17 1 a 1 5 3 1 1f 2 1 2 f 2 11 9",
     "1 3 1 29 2 1 10 1 5 3 8 3 18 6 5 12 3 18 1 9 1 1 2 7 3a 30 1 2 c 6 3b 2 1 1 1 5 1 18 1 1 1 a",
     "1 2 9 1 2 5 17 4 20 1 3f 8 1 24 1b 5 73 2b 14 1 10 6 4 4 3 1 3 2 7 3 4 d c 1 71 149 1 4 2 7",
     "1 1 1 4 2 29 1 4 2 21 1 4 2 7 1 1 1 4 2 f 1 39 1 4 2 43 25 10 71 26c 2 11 1 1a 5 4b 6 8 7 12",
     "d 13 e 12 e d 1 3 f 34 28 1 43 23 1 35 7 5 2 22 1 1 5 46 a 1f 31 1e 2 5 b 2c 4 1a 36 17 9 35",
     "b0 2f 11 8 36 1e d 2 a 2c 1a 24 29 3 a 1e 71 4 1 6 1 2 3 1 43a 4 bf7 38 18 17 9 7 1 7 1 7 1",
     "7 1 7 1 7 1 7 1 7 227 1 35 1 4 56 8 1 1 5a 4 1 5 2b 1 5e 11 20 30 10 200 19c0 40 5215 1 477",
     "43 28 8 10c 4 10 a 2 42 1 31 46 a9 1 67 1 3 7 1 3 1 4 1 17 1d 34 e 32 3e 6 3 1 1 2 b 1c a 17",
     "19 1d 7 2f 2d 5 2 9 a 5 1 29 17 3 1 8 14 10 1 6 3 1 3 32 1 1 3 2 2 5 2 1 1 1 18 2 3 b 7 1 e",
     "6 2 6 2 6 9 7 1 7 91 23 1d 2ba4 c 17 4 31 2104 16e 2 6a 43 1 1 a 1 d 1 5 1 1 1 2 1 2 1 6c 21",
     "16b 12 40 2 36 28 c 74 5 1 87 69 a 1 2d 2 1f 3 6 2 6 2 6 2 3 23 c 1 1a 1 13 1 2 1 f 2 e 22",
     "7b 185 1d 3 31 2f 20 d 14 1 8 6 26 a 1e 2 24 4 8 80 4e 62 28 8 34 5c 34 c 137 9 16 a 8 98 6",
     "2 1 1 2c 1 2 3 1 2 17 a 17 9 1f 41 13 1 2 a 16 a 1a 46 38 6 2 40 1 f 4 1 3 1 1d 2a 1d 3 1d",
     "23 8 1 1c 1b 36 a 16 a 13 d 12 6e 49 b7 24 26 4 1 1 130 2a 6 2 10 3 3b 1d a 1 8 16 2a 12 2e",
     "15 1b 17 c 35 39 2 2 1 d 2d 20 19 1a 24 1d 1 2 1 8 23 3 1 c 30 e 4 15 1 1 1 23 12 1 19 13 2",
     "3f 7 1 1 1 4 1 f 1 a 7 2f 26 8 2 2 2 16 1 7 1 2 1 5 3 1 12 1 c 5 1e a 1 1 2 1 1 26 1 1 19 1",
     "1 1 2c 35 12 4 14 3 1e 30 14 2 1 1 b8 2f 29 4 24 30 14 1 3b 2b d 1 47 1b 25 7 b9 2c d3 8 2 1",
     "2 8 1 2 1 18 f 1 1 1 5e 8 2 27 10 1 1 1 1c 1 a 28 7 1 15 1 b 2e 13 1 12 49 c7 21 1f 9 1 25",
     "11 1 31 1e 70 7 1 2 1 26 15 1 19 6 1 2 1 20 e 1 147 13 f 1 1 d 1 22 7c 1 4f 39a e6 c4 a4c 61",
     "f 430 11 6 19 f9b 5 247 1ab9 1e 6e2 239 7 1f 11 4f 11 1e 12 30 33 15 5 13 1b3 28 195 4b 5 1",
     "af 17f8 8 4d6 29 a 22f7 123 f 1 1d 3 2 1 e 4 8 18c 904 6b 5 d 3 9 7 a 2270 1 1f5 2d 21 1 141",
     "1e 12 2c 1e4 1b e5 1e 2 1 1ef 7 1 4 1 2 1 f 1 c5 53b 4 1 1b 1 2 1 1 2 1 1 a 1 4 1 1 1 1 6 1",
     "4 1 1 1 1 1 1 3 1 2 1 1 2 1 1 1 1 1 1 1 1 1 1 2 1 1 2 4 1 7 1 4 1 4 1 1 1 a 1 11 5 3 1 5 1",
     "11 1144 a6e0 20 103a 6 de 2 1682 e 1d31 f 26e 9a2 21e 5e2 134b 5 1060"]⟩,
  ⟨["lt", "titlecaseletter"],
    ["1c5 1 2 1 2 1 26 1 1d95 8 8 8 8 8 c 1 f 1 2f 1"]⟩,
  ⟨["lu", "uppercaseletter"],
    ["41 1a 65 17 1 7 21 1 1 1 1 1 1 1 1 1 1 1 1 1 1 1 1 1 1 1 1 1 1 1 1 1 1 1 1 1 1 1 1 1 1 1 1 1",
     "1 1 1 1 1 1 1 1 1 1 1 1 1 1 1 1 1 1 2 1 1 1 1 1 1 1 1 1 1 1 1 1 1 1 2 1 1 1 1 1 1 1 1 1 1 1",
     "1 1 1 1 1 1 1 1 1 1 1 1 1 1 1 1 1 1 1 1 1 1 1 1 1 1 1 1 1 1 1 1 1 1 1 2 1 1 1 1 3 2 1 1 1 2",
     "1 3 2 4 1 2 1 3 3 2 1 2 1 1 1 1 1 2 1 1 2 1 1 2 1 3 1 1 1 2 3 1 7 1 2 1 2 1 2 1 1 1 1 1 1 1",
     "1 1 1 1 1 1 1 1 2 1 1 1 1 1 1 1 1 1 1 1 1 1 1 1 1 1 2 1 2 1 1 3 1 1 1 1 1 1 1 1 1 1 1 1 1 1",
     "1 1 1 1 1 1 1 1 1 1 1 1 1 1 1 1 1 1 1 1 1 1 1 1 1 1 1 1 1 1 1 1 1 1 1 1 1 1 1 1 1 1 1 1 7 2",
     "1 2 2 1 1 4 1 1 1 1 1 1 1 1 121 1 1 1 3 1 8 1 6 1 1 3 1 1 1 2 1 11 1 9 23 1 2 3 3 1 1 1 1 1",
     "1 1 1 1 1 1 1 1 1 1 1 1 1 1 1 1 1 1 5 1 2 1 1 2 2 33 30 1 1 1 1 1 1 1 1 1 1 1 1 1 1 1 1 1 1",
     "1 1 1 1 1 1 1 1 1 1 1 1 1 1 1 9 1 1 1 1 1 1 1 1 1 1 1 1 1 1 1 1 1 1 1 1 1 1 1 1 1 1 1 1 1 1",
     "1 1 1 1 1 1 1 1 1 1 1 1 1 1 1 1 1 1 1 1 1 1 1 1 2 1 1 1 1 1 1 1 1 1 1 1 1 2 1 1 1 1 1 1 1 1",
     "1 1 1 1 1 1 1 1 1 1 1 1 1 1 1 1 1 1 1 1 1 1 1 1 1 1 1 1 1 1 1 1 1 1 1 1 1 1 1 1 1 1 1 1 1 1",
     "1 1 1 1 1 1 1 1 1 1 1 1 1 1 1 1 1 1 1 1 1 1 1 1 1 1 1 1 1 1 1 1 1 1 1 1 1 1 1 1 1 2 26 b49",
     "26 1 1 5 1 2d2 56 893 1 6 2b 2 3 140 1 1 1 1 1 1 1 1 1 1 1 1 1 1 1 1 1 1 1 1 1 1 1 1 1 1 1 1",
     "1 1 1 1 1 1 1 1 1 1 1 1 1 1 1 1 1 1 1 1 1 1 1 1 1 1 1 1 1 1 1 1 1 1 1 1 1 1 1 1 1 1 1 1 1 1",
     "1 1 1 1 1 1 1 1 1 1 1 1 1 1 1 1 1 1 1 1 1 1 1 1 1 1 1 1 1 1 1 1 1 1 1 1 1 1 1 1 1 1 1 1 1 1",
     "1 1 1 1 1 1 1 1 1 1 1 1 1 1 1 1 1 1 1 1 1 1 1 1 1 1 1 1 1 9 1 1 1 1 1 1 1 1 1 1 1 1 1 1 1 1",
     "1 1 1 1 1 1 1 1 1 1 1 1 1 1 1 1 1 1 1 1 1 1 1 1 1 1 1 1 1 1 1 1 1 1 1 1 1 1 1 1 1 1 1 1 1 1",
     "1 1 1 1 1 1 1 1 1 1 1 1 1 1 1 1 1 1 1 1 1 1 1 1 1 1 1 1 1 1 1 1 1 1 1 9 8 8 6 a 8 8 8 8 6 b",
     "1 1 1 1 1 1 1 8 8 48 4 c 4 c 4 c 5 b 4 106 1 4 1 3 3 2 3 2 1 3 5 6 1 1 1 1 1 1 4 2 4 a 2 5 1",
     "3d 1 a7c 30 30 1 1 3 2 1 1 1 1 1 1 4 1 1 2 1 8 3 1 1 1 1 1 1 1 1 1 1 1 1 1 1 1 1 1 1 1 1 1 1",
     "1 1 1 1 1 1 1 1 1 1 1 1 1 1 1 1 1 1 1 1 1 1 1 1 1 1 1 1 1 1 1 1 1 1 1 1 1 1 1 1 1 1 1 1 1 1",
     "1 1 1 1 1 1 1 1 1 1 1 1 1 1 1 1 1 1 1 1 1 1 1 1 1 1 1 1 1 1 8 1 1 1 4 1 794d 1 1 1 1 1 1 1 1",
     "1 1 1 1 1 1 1 1 1 1 1 1 1 1 1 1 1 1 1 1 1 1 1 1 1 1 1 1 1 1 1 1 1 1 1 1 1 13 1 1 1 1 1 1 1 1",
     "1 1 1 1 1 1 1 1 1 1 1 1 1 1 1 1 1 1 1 87 1 1 1 1 1 1 1 1 1 1 1 1 1 3 1 1 1 1 1 1 1 1 1 1 1 1",
     "1 1 1 1 1 1 1 1 1 1 1 1 1 1 1 1 1 1 1 1 1 1 1 1 1 1 1 1 1 1 1 1 1 1 1 1 1 1 1 1 1 1 1 1 1 1",
     "1 1 1 a 1 1 1 1 2 1 1 1 1 1 1 1 1 4 1 1 1 2 1 1 1 3 1 1 1 1 1 1 1 1 1 1 1 1 1 1 1 1 1 1 1 1",
     "5 1 5 1 1 1 1 1 1 1 1 1 1 1 1 1 1 1 4 1 1 1 2 3 1 5 1 1 1 1 1 1 1 18 1 572b 1a 4c5 28 88 24",
     "9c b 1 f 1 7 1 2 6ea 33 9d 16 b3a 20 5580 20 65a0 1a 1a 1a 1a 1a 1a 1 1 2 2 1 2 2 2 4 1 8 1a",
     "1a 1a 2 1 4 2 8 1 7 1b 2 1 4 1 5 1 1 3 7 1b 1a 1a 1a 1a 1a 1a 1a 1a 1a 1a 1a 1e 19 21 19 21",
     "19 21 19 21 19 21 1 1135 22"]⟩,
  ⟨["mc", "spacingmark"],
    ["903 1 37 1 2 3 8 4 1 2 32 2 3a 3 6 2 2 2 a 1 2b 1 3a 3 42 1 3a 3 8 1 1 2 35 2 3a 1 1 1 6 2 2",
     "2 a 1 66 2 1 2 3 3 1 3 a 1 29 3 3d 4 3d 2 3a 1 1 5 2 2 1 2 9 2 1c 1 e 2 3a 3 5 3 1 3 a 1 2a",
     "2 4b 3 6 8 12 2 14a 2 3f 1 ab 2 4 1 6 1 2 2 19 2 a 3 2 7 15 2 2 6 2 1 a 3 678 1 1e 1 81 1 7",
     "8 1 2 15a 4 2 3 4 2 1 6 e0 2 3a 1 1 1 9 1 1 2 8 6 91 1 30 1 5 1 1 5 1 2 3d 1 1e 1 4 2 2 1 3c",
     "1 2 3 1 1 3 2 30 8 8 2 ab 1 15 1 1336 2 77f3 2 2 1 58 2 32 10 8e 2 2f 1 30 2 4 2 2 3 6e 2 2",
     "2 18 1 2d 1 1 1 6d 1 2 2 5 1 ed 2 1 2 1 2 1 1 6413 1 1 1 7f 1 2d 3 4 2 73 1 18 2 3b 1 30 3 9",
     "2 d 1 5d 3 3 2 1 1 aa 3 1f 2 3a 2 1 4 2 2 2 3 9 1 a 2 54 3 7 1 2 1 1 4 1 2 1 1 65 3 8 2 3 1",
     "6a 3 6 1 1 4 2 1 ed 3 6 4 2 1 71 3 8 2 1 1 6d 1 1 2 6 1 67 1 1 2 4 1 105 3 9 1 f7 6 1 2 4 1",
     "2 1 1 1 8e 3 8 4 4 1 54 1 1d 2 3e 1 197 1 e 1 6a 1 7 1 2 1 d5 5 4 2 1 1 15e 2 c 1 30 2 8 2 1",
     "1 41e8 3 e24 37 68 2 6173 2 6 6"]⟩,
  ⟨["me", "enclosingmark"],
    ["488 2 1634 1 61e 4 1 3 858b 3"]⟩,
  ⟨["mn", "nonspacingmark"],
    ["300 70 113 5 109 2d 1 1 1 2 1 2 1 1 48 b 30 15 10 1 65 7 2 6 2 2 1 4 23 1 1e 1b 5b b 3a 9 9",
     "1 18 4 1 9 1 3 1 5 2b 3 3b 9 2a 18 1 20 37 1 1 1 4 8 4 1 3 7 a 2 1d 1 3a 1 4 4 8 1 14 2 1a 1",
     "2 2 39 1 4 2 4 2 2 3 3 1 1e 2 3 1 b 2 39 1 4 5 1 2 4 1 14 2 16 6 1 1 3a 1 2 1 1 4 8 1 7 2 b",
     "2 1e 1 3d 1 c 1 32 1 3 1 37 1 1 3 5 3 1 4 7 2 b 2 1d 1 3a 1 2 1 6 1 5 2 14 2 1c 2 39 2 4 4 8",
     "1 14 2 1d 1 48 1 7 3 1 1 5a 1 2 7 c 8 62 1 2 9 b 7 49 2 1b 1 1 1 1 1 37 e 1 5 1 2 5 b 1 24 9",
     "1 66 4 1 6 1 2 2 2 19 2 4 3 10 4 d 1 2 2 6 1 f 1 2bf 3 3b2 3 1d 2 1e 2 1e 2 40 2 1 7 8 1 2 b",
     "9 1 2d 3 1 1 75 2 22 1 76 3 4 2 9 1 6 3 db 2 2 1 3a 1 1 7 1 1 1 1 2 8 6 a 2 1 30 e 1 10 31 4",
     "30 1 1 5 1 1 5 1 28 9 c 2 20 4 2 2 1 3 38 1 1 2 3 1 1 3 3a 8 2 2 98 3 1 d 1 7 4 1 6 1 3 2 c6",
     "40 2d0 d 4 1 3 c bfe 3 8d 1 60 20 22a 4 6b 2 75d4 1 4 a 20 2 50 2 110 1 3 1 4 1 19 2 5 1 97",
     "2 1a 12 d 1 26 8 19 b 2e 3 30 1 2 4 2 2 27 1 43 6 2 2 2 2 c 1 8 1 2f 1 33 1 1 3 2 2 5 2 1 1",
     "2a 2 8 1 ee 1 2 1 4 1 4f30 1 2e1 10 10 10 3cd 1 e2 1 95 5 686 3 1 2 5 4 28 3 4 1 a5 2 23d 4",
     "41 5 13d 2 4f 4 46 b 31 4 7b 1 36 f 29 1 2 2 a 3 31 4 2 2 7 1 3d 3 24 5 1 8 3e 1 c 2 34 9 a",
     "4 2 1 5f 3 2 1 1 2 6 1 2 1 9d 1 3 8 15 2 39 2 3 1 25 7 3 5 46 6 d 1 1 1 1 1 e 2 55 8 2 3 1 1",
     "17 1 54 6 1 1 4 2 1 2 ee 4 6 2 1 2 1b 2 55 8 2 1 1 2 6a 1 1 1 2 6 1 1 65 1 1 1 2 4 1 5 103 9",
     "1 2 100 2 1 1 4 1 90 4 2 2 4 1 20 a 28 6 2 4 8 1 9 6 2 3 2e d 1 2 196 7 1 6 1 1 52 16 2 7 1",
     "2 1 2 7a 6 3 1 1 2 1 7 1 1 48 2 3 1 1 1 15b 2 b 2 34 5 5 1 1 1 17 1 14e5 1 6 f 2cc8 c 3 3",
     "9c0 5 3b 7 418 1 3f 4 51 1 4cb8 2 1261 2e 2 17 220 3 11 8 2 7 1e 4 94 3 7bb 37 4 32 8 1 e 1",
     "16 5 1 f 550 7 1 11 2 7 1 2 1 5 64 1 a0 7 177 1 3d 4 1fc 4 fe 2 2e0 7 6d 7 c17b5 f0"]⟩,
  ⟨["nd", "decimalnumber", "digit"],
    ["30 a 626 a 86 a c6 a 19c a 76 a 76 a 76 a 76 a 76 a 76 a 76 a 76 a 76 a 60 a 76 a 46 a 116 a",
     "46 a 746 a 26 a 12c a 80 a a6 a 6 a b6 a 56 a 86 a 6 a 89c6 a 2a6 a 26 a c6 a 16 a 56 a 196",
     "a 5316 a 586 a 886 a 6 a 31c a 80 a 3c a 90 a 116 a 156 a 76 a 176 a 66 a 6 14 4c a 1a6 a 66",
     "a 296 a 56 a f6 a 46 a 1a6 a 41d6 a 926 a 56 a 86 a 216 a 5f76 a ad4 32 940 a 1a6 a 1f6 a f7",
     "a 355 a 1296 a"]⟩,
  ⟨["nl", "letternumber"],
    ["16ee 3 a6f 23 2 4 e7e 1 19 9 e 3 76ab a 5a50 35 1cc 1 8 1 86 5 202a 6f"]⟩,
  ⟨["no", "othernumber"],
    ["b2 2 5 1 2 3 935 6 178 6 78 3 85 7 d9 7 11 9 1b1 a 435 14 473 a 1e0 1 695 1 3 6 6 a c6 10 29",
     "1 2d6 3c 4e 16 276 1e 569 1 494 4 8a a 1e 8 1 f 20 a 27 f 7570 6 58d1 2d 41 4 11 2 155 1b 24",
     "4 534 8 19 7 27 9 4b 5 16 6 a0 2 2 10 2 2e 40 9 34 2 1e 3 4b 5 68 8 18 8 29 7 14a 6 160 1f",
     "9e a 2a 4 70 7 86 14 17b 14 545 2 1ae 9 367 13 353 15 4b86 7 31e 17 6429 14 c 14 6c 19 154e",
     "9 3a1 3b 1 3 1 4 4c 2d 1 f 3c2 d"]⟩,
  ⟨["pc", "connectorpunctuation"],
    ["5f 1 1fdf 2 13 1 ddde 2 18 3 ef 1"]⟩,
  ⟨["pd", "dashpunctuation"],
    ["2d 1 55c 1 33 1 e41 1 405 1 809 6 e01 1 2 1 1f 2 4 1 1c 1 1be 1 13 1 6f 1 cd90 2 25 1 a 1 a9",
     "1 e60 1 13e 1"]⟩,
  ⟨["pe", "closepunctuation"],
    ["29 1 33 1 1f 1 ebd 1 1 1 75e 1 9a9 1 37 1 f 1 27a 1 1 1 1e 1 43e 1 1 1 1 1 1 1 1 1 1 1 1 1",
     "50 1 20 1 1 1 1 1 1 1 1 1 194 1 1 1 1 1 1 1 1 1 1 1 1 1 1 1 1 1 1 1 1 1 40 1 1 1 21 1 425 1",
     "1 1 1 1 1 1 2c 1 1 1 1 1 1 1 1ac 1 1 1 1 1 1 1 1 1 3 1 1 1 1 1 1 1 2 2 cd1e 1 d9 1 1d 1 1 1",
     "1 1 1 1 1 1 1 1 1 1 1 1 3 1 11 1 1 1 1 1 aa 1 33 1 1f 1 2 1 2 1"]⟩,
  ⟨["pf", "finalpunctuation"],
    ["bb 1 1f5d 1 3 1 1c 1 dc8 1 1 1 4 1 2 1 f 1 3 1"]⟩,
  ⟨["pi", "initialpunctuation"],
    ["ab 1 1f6c 1 2 2 2 1 19 1 dc8 1 1 1 4 1 2 1 f 1 3 1"]⟩,
  ⟨["po", "otherpunctuation"],
    ["21 3 1 3 2 1 1 1 1 2 a 2 3 2 1b 1 44 1 5 1 e 2 7 1 2be 1 8 1 1d2 6 29 1 36 1 2 1 2 1 2c 2 14",
     "2 1 2 d 1 1 3 4a 4 66 1 2b e e9 3 36 f 1f 1 105 2 a 1 8c 1 78 1 79 1 186 1 c 1 16f 1 5a 1 a",
     "2 a8 f 1 1 70 1 4a 5 4 2 6f 6 ab 1 264 9 305 1 7c 3 47 2 9d 3 1 3 25 6 1 4 139 2 d8 2 80 7 1",
     "6 a0 2 a 7 1c 3 7c 4 3b 5 3e 2 40 8 b 1 342 2 8 8 8 9 2 4 2 3 3 b 1 1 1 a c9a 4 1 2 70 1 8f",
     "2 4 3 2 1 2 9 1 2 1 1 2 2 a 5 1 a 2 4 1 1 1 d 2 3 1ac 3 39 1 bd 1 7402 2 10d 3 63 1 a 1 73 6",
     "17c 4 56 2 28 3 1 1 31 2 2f 1 61 d 10 2 7c 4 7e 2 10 2 f9 1 5224 7 2 1 16 1 14 2 2 4 3 3 1 4",
     "7 3 6 1 1 2 95 3 1 3 2 1 1 1 1 2 a 2 3 2 1b 1 24 1 2 2 19a 3 29c 1 30 1 19e 1 2e7 1 c7 1 1f",
     "1 110 9 26 1 70 7 42 7 59 4 3b8 5 2c 4 bd 7 6d 2 1 4 7e 4 30 2 4f 4 4 1 d 1 1 3 58 6 6b 1",
     "12a 2 1 2 72 5 a 2 1 1 68 1 fa 17 69 3 1c d 4c 1 82 3 fc 1 108 3 9b 1 5c 8 53 3 1 5 5d a d7",
     "1 5f 5 2a 2 285 2 4a d af 1 470 5 b7c 2 3a7b 2 85 1 41 5 8 1 228 3 127 4 147 1 4cbc 1 1de7 5",
     "b73 1 35e 2"]⟩,
  ⟨["ps", "openpunctuation"],
    ["28 1 32 1 1f 1 ebe 1 1 1 75e 1 97e 1 3 1 26 1 37 1 f 1 27a 1 1 1 1e 1 43e 1 1 1 1 1 1 1 1 1",
     "1 1 1 1 50 1 20 1 1 1 1 1 1 1 1 1 194 1 1 1 1 1 1 1 1 1 1 1 1 1 1 1 1 1 1 1 1 1 40 1 1 1 21",
     "1 425 1 1 1 1 1 1 1 19 1 12 1 1 1 1 1 1 1 1ac 1 1 1 1 1 1 1 1 1 3 1 1 1 1 1 1 1 2 1 cd21 1",
     "d7 1 1d 1 1 1 1 1 1 1 1 1 1 1 1 1 1 1 3 1 11 1 1 1 1 1 aa 1 32 1 1f 1 3 1 2 1"]⟩,
  ⟨["sc", "currencysymbol"],
    ["24 1 7d 4 4e9 1 7b 1 1f2 2 1f2 2 7 1 f5 1 107 1 245 1 99b 1 8c4 21 8777 1 55c3 1 6c 1 9a 1",
     "db 2 3 2 1ff6 4 c31e 1 9b0 1"]⟩,
  ⟨["sk", "modifiersymbol"],
    ["5e 1 1 1 47 1 6 1 4 1 3 1 209 4 c e 5 7 1 1 1 11 75 1 e 2 502 1 1734 1 1 3 b 3 d 3 d 3 d 2",
     "109c 2 7663 17 9 2 67 2 3d0 1 e 2 5046 11 37b 1 1 1 a2 1 f417 5"]⟩,
  ⟨["sm", "mathsymbol"],
    ["2b 1 10 3 3d 1 1 1 2d 1 4 1 25 1 1f 1 2fe 1 20f 3 1a3b 1 d 1 27 3 d 3 8b 1 27 5 6 1 44 5 5 2",
     "4 1 2 1 2 1 7 1 1f 2 2 1 1 1 1f 10c 20 2 5a 1 1e 19 28 6 1d5 1 9 1 36 8 6f 1 150 5 2 1f a 10",
     "100 83 16 3f 4 20 2 102 30 15 2 6 cfdc 1 338 1 1 3 a4 1 10 3 3d 1 1 1 83 1 6 4 da1 2 c931 1",
     "19 1 1f 1 19 1 1f 1 19 1 1f 1 19 1 1f 1 19 1 172c 2"]⟩,
  ⟨["so", "othersymbol"],
    ["a6 1 2 1 4 1 1 1 3d1 1 10a 2 7f 2 ce 1 a 1 13 2 f7 1 203 1 175 1 82 6 1 1 84 1 cf 1 29 1 187",
     "3 f 1 1 3 2 6 14 1 1 1 1 1 85 8 1 6 1 2 5 4 c5 2 2f0 a 2d3 1 2d2 1 9d 22 161 a 9 9 583 2 1 4",
     "1 2 a 1 1 2 6 6 1 1 1 1 1 1 4 1 b 2 e 1 1 2 1 1 3a 2 9 5 2 4 1 2 1 2 1 7 1 1f 2 2 1 1 1 1f",
     "10c 8 4 14 2 7 2 51 1 1e 19 28 6 48 16 b 51 4e 16 b7 1 9 1 36 8 6f 1 f8 2c 2c 40 100 200 30",
     "15 2 6 27 2 20 1 69 e5 6 165 2 2e 1a 1 59 c d6 1a 10 4 1 d 2 c 1 15 2 6 2 150 2 4 a 20 26 9",
     "1 10 1f b 1e 8 1 f 20 a 27 f 140 19c0 40 5690 37 361 4 a 2 1 1 23d 3 52c6 10 7f 1 2d 3 1e4 1",
     "3 1 4 2 d 2 139 9 39 11 2 3 1 d 3 1 2f 2d 67a 2 24f 1 c76 1 895 8 4 11 4b4a 4 5 1 5156 1 f63",
     "f0 10 1b4 9c 74 3c f6 a 27 2 3c 5 3 16 2 7 1e 4 3d 15 42 3 1 ba 57 4a9 200 37 4 32 8 1 e 1 2",
     "6c8 1 b5c 1 81 1 2d1 2c 4 64 c f 2 f 1 f 1 25 17 a1 38 1d d 2c 4 9 7 2 e 6 9a fb 5 2d8 4 11",
     "3 d 3 77 4 5f 6 c 4 1 f c 4 38 8 a 6 28 8 1e 2 c 4 2 3e 154 c e 2 d 3 a 5 38 7 f 2 b 6 9 7",
     "93 1 5c"]⟩,
  ⟨["zl", "lineseparator"],
    ["2028 1"]⟩,
  ⟨["zp", "paragraphseparator"],
    ["2029 1"]⟩,
  ⟨["zs", "spaceseparator"],
    ["20 1 7f 1 15df 1 97f b 24 1 2f 1 fa0 1"]⟩
]

/-- The families of categories: their names and the names of their members. -/
def categoryFamilies : List (List String × List String) := [
  (["lc", "casedletter"], ["lu", "ll", "lt"]),
  (["l", "letter"], ["lu", "ll", "lt", "lm", "lo"]),
  (["m", "mark", "combiningmark"], ["mn", "mc", "me"]),
  (["n", "number"], ["nd", "nl", "no"]),
  (["p", "punctuation", "punct"], ["pc", "pd", "ps", "pe", "pi", "pf", "po"]),
  (["s", "symbol"], ["sm", "sc", "sk", "so"]),
  (["z", "separator"], ["zs", "zl", "zp"])
]

namespace CharSet

/-- The characters that belong to a category. -/
def assigned : CharSet :=
  unions (categoryTable.map fun row => ofDistances row.distances)

/-- The characters of the categories with the given names. -/
def ofCategories (names : List String) : CharSet :=
  unions ((categoryTable.filter fun row => names.any row.names.contains).map fun row =>
    ofDistances row.distances)

/-- The characters of a category or of a family of categories, by its name.  Further names stand
for all characters, for the assigned ones and for those of ASCII. -/
def category? (name : String) : Option CharSet :=
  if categoryTable.any (·.names.contains name) then some (ofCategories [name])
  else if name = "any" then some all
  else if name = "ascii" then some (range '\x00' '\x7f')
  else if name = "assigned" then some assigned
  else if name = "cn" || name = "unassigned" then some assigned.complement
  else if name = "c" || name = "other" then
    some (assigned.complement.union (ofCategories ["cc", "cf", "co"]))
  else (categoryFamilies.find? (·.1.contains name)).map fun family => ofCategories family.2

end CharSet

end InterRater

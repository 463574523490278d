/-
  JsonSchema.Unicode.Direction — the direction of characters, and how they join in cursive
  scripts.
-/

import JsonSchema.Unicode.CodeSet

namespace JsonSchema.Unicode

def directionTable : Valued := .ofRuns "
BN 9 S 1 B 1 S 1 WS 1 B 1 BN 14 B 3 S 1 WS 1 ON 2 ET 3 ON 5 ES 1 CS 1 ES 1 CS 2 EN 10 CS 1 ON 6 L 26 ON 6 L
26 ON 4 BN 6 B 1 BN 26 CS 1 ON 1 ET 4 ON 4 L 1 ON 2 BN 1 ON 2 ET 2 EN 2 ON 1 L 1 ON 3 EN 1 L 1 ON 5 L 23 ON
1 L 31 ON 1 L 449 ON 2 L 7 ON 14 L 2 ON 14 L 5 ON 9 L 1 ON 17 NSM 112 L 4 ON 2 L 8 ON 1 L 5 ON 2 L 1 ON 1 L
110 ON 1 L 140 NSM 7 L 256 ON 1 L 2 ON 2 ET 1 R 1 NSM 45 R 1 NSM 1 R 1 NSM 2 R 1 NSM 2 R 1 NSM 1 R 56 AN 6
ON 2 AL 1 ET 2 AL 1 CS 1 AL 1 ON 2 NSM 11 AL 48 NSM 21 AN 10 ET 1 AN 2 AL 3 NSM 1 AL 101 NSM 7 AN 1 ON 1 NSM
6 AL 2 NSM 2 ON 1 NSM 4 AL 2 EN 10 AL 23 NSM 1 AL 30 NSM 27 AL 91 NSM 11 AL 15 R 43 NSM 9 R 2 ON 4 R 3 NSM 1
R 24 NSM 4 R 1 NSM 9 R 1 NSM 3 R 1 NSM 5 R 43 NSM 3 R 4 AL 48 AN 2 AL 6 NSM 8 AL 42 NSM 24 AN 1 NSM 32 L 55
NSM 1 L 1 NSM 1 L 4 NSM 8 L 4 NSM 1 L 3 NSM 7 L 10 NSM 2 L 29 NSM 1 L 58 NSM 1 L 4 NSM 4 L 8 NSM 1 L 20 NSM
2 L 14 ET 2 L 7 ET 1 L 2 NSM 1 L 2 NSM 2 L 57 NSM 1 L 4 NSM 2 L 4 NSM 2 L 2 NSM 3 L 3 NSM 1 L 30 NSM 2 L 3
NSM 1 L 11 NSM 2 L 57 NSM 1 L 4 NSM 5 L 1 NSM 2 L 4 NSM 1 L 20 NSM 2 L 13 ET 1 L 8 NSM 6 L 1 NSM 1 L 58 NSM
1 L 2 NSM 1 L 1 NSM 4 L 8 NSM 1 L 7 NSM 2 L 11 NSM 2 L 30 NSM 1 L 61 NSM 1 L 12 NSM 1 L 37 ON 6 ET 1 ON 1 L
5 NSM 1 L 3 NSM 1 L 55 NSM 1 L 1 NSM 3 L 5 NSM 3 L 1 NSM 4 L 7 NSM 2 L 11 NSM 2 L 20 ON 7 L 2 NSM 1 L 58 NSM
1 L 15 NSM 2 L 20 NSM 2 L 28 NSM 2 L 57 NSM 2 L 4 NSM 4 L 8 NSM 1 L 20 NSM 2 L 29 NSM 1 L 72 NSM 1 L 7 NSM 3
L 1 NSM 1 L 90 NSM 1 L 2 NSM 7 L 4 ET 1 L 7 NSM 8 L 98 NSM 1 L 2 NSM 9 L 11 NSM 7 L 73 NSM 2 L 27 NSM 1 L 1
NSM 1 L 1 NSM 1 ON 4 L 51 NSM 14 L 1 NSM 5 L 1 NSM 2 L 5 NSM 11 L 1 NSM 36 L 9 NSM 1 L 102 NSM 4 L 1 NSM 6 L
1 NSM 2 L 2 NSM 2 L 25 NSM 2 L 4 NSM 3 L 16 NSM 4 L 13 NSM 1 L 2 NSM 2 L 6 NSM 1 L 15 NSM 1 L 703 NSM 3 L 48
ON 10 L 102 ON 1 L 639 WS 1 L 26 ON 2 L 117 NSM 3 L 29 NSM 2 L 30 NSM 2 L 30 NSM 2 L 64 NSM 2 L 1 NSM 7 L 8
NSM 1 L 2 NSM 11 L 7 ET 1 L 1 NSM 1 L 18 ON 10 L 6 ON 11 NSM 3 BN 1 NSM 1 L 117 NSM 2 L 34 NSM 1 L 118 NSM 3
L 4 NSM 2 L 9 NSM 1 L 6 NSM 3 L 4 ON 1 L 3 ON 2 L 152 ON 34 L 23 NSM 2 L 2 NSM 1 L 58 NSM 1 L 1 NSM 7 L 1
NSM 1 L 1 NSM 1 L 2 NSM 8 L 6 NSM 10 L 2 NSM 1 L 48 NSM 31 L 49 NSM 4 L 48 NSM 1 L 1 NSM 5 L 1 NSM 1 L 5 NSM
1 L 40 NSM 9 L 12 NSM 2 L 32 NSM 4 L 2 NSM 2 L 1 NSM 3 L 56 NSM 1 L 1 NSM 2 L 3 NSM 1 L 1 NSM 3 L 58 NSM 8 L
2 NSM 2 L 152 NSM 3 L 1 NSM 13 L 1 NSM 7 L 4 NSM 1 L 6 NSM 1 L 3 NSM 2 L 198 NSM 64 L 445 ON 1 L 1 ON 3 L 11
ON 3 L 13 ON 3 L 13 ON 3 L 13 ON 2 L 1 WS 11 BN 3 L 1 R 1 ON 24 WS 1 B 1 LRE 1 RLE 1 PDF 1 LRO 1 RLO 1 CS 1
ET 5 ON 15 CS 1 ON 26 WS 1 BN 6 LRI 1 RLI 1 FSI 1 PDI 1 BN 6 EN 1 L 3 EN 6 ES 2 ON 3 L 1 EN 10 ES 2 ON 3 L
17 ET 48 NSM 33 L 15 ON 2 L 1 ON 4 L 1 ON 2 L 10 ON 1 L 1 ON 3 L 5 ON 6 L 1 ON 1 L 1 ON 1 L 1 ON 1 L 4 ET 1
L 11 ON 2 L 4 ON 5 L 5 ON 4 L 2 ON 16 L 41 ON 3 L 4 ON 130 ES 1 ET 1 ON 290 L 69 ON 26 L 1 ON 145 L 25 ON 11
L 21 ON 40 EN 20 L 78 ON 450 L 1 ON 339 L 256 ON 628 L 2 ON 32 L 1 ON 105 L 229 ON 6 L 4 NSM 3 L 7 ON 7 L
127 NSM 1 L 96 NSM 32 ON 94 L 34 ON 26 L 1 ON 89 L 12 ON 214 L 26 ON 12 L 4 WS 1 ON 4 L 3 ON 25 L 9 NSM 4 L
2 ON 1 L 5 ON 2 L 5 ON 3 L 89 NSM 2 ON 2 L 3 ON 1 L 90 ON 1 L 196 ON 36 L 57 ON 2 L 49 ON 16 L 28 ON 3 L 50
ON 15 L 12 ON 4 L 167 ON 4 L 99 ON 2 L 31 ON 1 L 6592 ON 64 L 22160 ON 55 L 326 ON 3 L 95 NSM 4 ON 1 NSM 10
ON 2 L 30 NSM 2 L 80 NSM 2 L 14 ON 34 L 102 ON 1 L 121 NSM 1 L 3 NSM 1 L 4 NSM 1 L 25 NSM 2 L 1 ON 4 NSM 1 L
11 ET 2 L 58 ON 4 L 76 NSM 2 L 26 NSM 18 L 13 NSM 1 L 38 NSM 8 L 25 NSM 11 L 46 NSM 3 L 48 NSM 1 L 2 NSM 4 L
2 NSM 2 L 39 NSM 1 L 67 NSM 6 L 2 NSM 2 L 2 NSM 2 L 12 NSM 1 L 8 NSM 1 L 47 NSM 1 L 51 NSM 1 L 1 NSM 3 L 2
NSM 2 L 5 NSM 2 L 1 NSM 1 L 42 NSM 2 L 8 NSM 1 L 115 ON 2 L 121 NSM 1 L 2 NSM 1 L 4 NSM 1 L 20271 R 1 NSM 1
R 10 ES 1 R 38 AL 494 ON 18 AL 127 ON 1 BN 32 AL 13 ON 3 NSM 16 ON 10 L 6 NSM 16 ON 32 CS 1 ON 1 CS 1 L 1 ON
1 CS 1 ON 9 ET 1 ON 2 ES 2 ON 3 L 1 ON 1 ET 2 ON 1 L 4 AL 143 BN 1 L 1 ON 2 ET 3 ON 5 ES 1 CS 1 ES 1 CS 2 EN
10 CS 1 ON 6 L 26 ON 6 L 26 ON 11 L 122 ET 2 ON 3 ET 2 L 1 ON 7 L 1 BN 9 ON 5 BN 2 L 257 ON 1 L 62 ON 77 L 3
ON 13 L 3 ON 1 L 92 NSM 1 L 226 NSM 1 EN 27 L 122 NSM 5 L 1157 R 287 ON 1 R 225 NSM 3 R 1 NSM 2 R 5 NSM 4 R
40 NSM 3 R 4 NSM 1 R 165 NSM 2 R 82 ON 7 R 448 AL 36 NSM 4 AL 8 AN 10 AL 6 R 288 AN 31 R 44 NSM 2 R 19 AL 61
NSM 3 R 48 AL 22 NSM 11 AL 31 R 18 NSM 4 R 122 L 1 NSM 1 L 54 NSM 15 L 11 ON 20 L 10 NSM 1 L 2 NSM 2 L 10
NSM 3 L 49 NSM 4 L 2 NSM 2 L 7 NSM 1 L 61 NSM 3 L 36 NSM 5 L 1 NSM 8 L 62 NSM 1 L 12 NSM 2 L 52 NSM 9 L 10
NSM 4 L 2 NSM 1 L 95 NSM 3 L 2 NSM 1 L 1 NSM 2 L 6 NSM 1 L 2 NSM 1 L 157 NSM 1 L 3 NSM 8 L 21 NSM 2 L 57 NSM
2 L 3 NSM 1 L 37 NSM 7 L 3 NSM 5 L 195 NSM 8 L 2 NSM 3 L 1 NSM 1 L 23 NSM 1 L 84 NSM 6 L 1 NSM 1 L 4 NSM 2 L
1 NSM 2 L 238 NSM 4 L 6 NSM 2 L 1 NSM 2 L 27 NSM 2 L 85 NSM 8 L 2 NSM 1 L 1 NSM 2 L 31 ON 13 L 62 NSM 1 L 1
NSM 1 L 2 NSM 6 L 1 NSM 1 L 101 NSM 3 L 2 NSM 4 L 1 NSM 5 L 259 NSM 9 L 1 NSM 2 L 256 NSM 2 L 1 NSM 1 L 4
NSM 1 L 144 NSM 4 L 2 NSM 2 L 4 NSM 1 L 32 NSM 6 L 2 NSM 2 L 40 NSM 6 L 2 NSM 4 L 8 NSM 1 L 9 NSM 6 L 2 NSM
3 L 46 NSM 13 L 1 NSM 2 L 406 NSM 7 L 1 NSM 6 L 84 NSM 22 L 2 NSM 7 L 1 NSM 2 L 1 NSM 2 L 122 NSM 6 L 3 NSM
1 L 1 NSM 2 L 1 NSM 7 L 1 NSM 1 L 72 NSM 2 L 3 NSM 1 L 1 NSM 1 L 347 NSM 2 L 11 NSM 2 L 52 NSM 5 L 5 NSM 1 L
1 NSM 1 L 146 ON 8 ET 4 ON 17 L 5198 NSM 1 L 6 NSM 15 L 13978 NSM 5 L 59 NSM 7 L 1048 NSM 1 L 63 NSM 4 L 79
ON 1 L 1 NSM 1 L 19640 NSM 2 L 1 BN 4 L 4700 NSM 46 L 2 NSM 23 L 544 NSM 3 L 9 BN 8 NSM 8 L 2 NSM 7 L 30 NSM
4 L 59 ON 2 L 21 ON 66 NSM 3 ON 1 L 186 ON 87 L 900 ON 1 L 57 ON 1 L 57 ON 1 L 57 ON 1 L 57 ON 1 L 10 EN 50
L 512 NSM 55 L 4 NSM 50 L 8 NSM 1 L 14 NSM 1 L 22 NSM 5 L 1 NSM 15 L 1360 NSM 7 L 1 NSM 17 L 2 NSM 7 L 1 NSM
2 L 1 NSM 5 L 100 NSM 1 L 160 NSM 7 L 375 NSM 1 L 61 NSM 4 L 15 ET 1 L 492 NSM 4 L 784 R 208 NSM 7 R 109 NSM
7 R 805 AL 80 R 64 AL 80 R 176 AL 240 ON 2 AL 14 R 256 ON 44 L 4 ON 100 L 12 ON 15 L 2 ON 15 L 1 ON 15 L 1
ON 37 L 10 EN 11 ON 5 L 31 ON 1 L 58 ON 6 L 61 ON 1 L 178 ON 6 L 154 ON 984 L 4 ON 17 L 3 ON 13 L 3 ON 119 L
4 ON 95 L 6 ON 12 L 4 ON 1 L 15 ON 12 L 4 ON 56 L 8 ON 10 L 6 ON 40 L 8 ON 30 L 2 ON 2 L 78 ON 340 L 12 ON
14 L 2 ON 13 L 3 ON 9 L 7 ON 46 L 1 ON 7 L 8 ON 14 L 4 ON 9 L 7 ON 9 L 7 ON 147 L 1 ON 55 L 37 EN 10 L 1028
BN 2 L 65534 BN 2 L 65534 BN 2 L 65534 BN 2 L 65534 BN 2 L 65534 BN 2 L 65534 BN 2 L 65534 BN 2 L 65534 BN 2
L 65534 BN 2 L 65534 BN 2 L 65534 BN 2 L 65534 BN 258 NSM 240 BN 3600 L 61438 BN 2 L 65534 BN 2 L 65534 BN 2
L 0"

def direction (c : Char) : String := (directionTable.value? c.toNat).getD "L"

def joiningTable : Valued := .ofRuns "
U 173 T 1 U 594 T 112 U 275 T 7 U 263 T 45 U 1 T 1 U 1 T 2 U 1 T 2 U 1 T 1 U 72 T 11 U 1 T 1 U 3 D 1 U 1 R 4
D 1 R 1 D 1 R 1 D 5 R 4 D 13 C 1 D 7 R 1 D 2 T 21 U 14 D 2 T 1 R 3 U 1 R 3 D 16 R 18 D 38 R 1 D 2 R 9 D 1 R
1 D 1 R 1 D 2 R 2 U 1 R 1 T 7 U 2 T 6 U 2 T 2 U 1 T 4 R 2 U 10 D 3 U 2 D 1 U 15 T 1 R 1 T 1 D 3 R 5 D 4 R 1
D 9 R 1 D 1 R 1 D 1 R 1 D 2 R 1 T 27 U 2 R 1 D 11 R 3 D 15 R 2 D 4 R 1 D 1 R 2 D 3 R 2 D 6 U 38 T 11 U 25 D
33 T 9 U 6 C 1 U 2 T 1 U 24 T 4 U 1 T 9 U 1 T 3 U 1 T 5 U 18 R 1 D 5 R 2 D 1 R 1 D 10 R 1 D 1 R 3 T 3 U 4 D
1 U 1 D 4 U 1 R 1 D 1 R 2 U 5 R 19 C 3 D 1 U 2 D 5 R 1 U 9 T 8 D 10 R 3 U 1 R 1 D 2 R 2 D 6 R 1 D 15 U 1 T
24 U 1 T 32 U 55 T 1 U 1 T 1 U 4 T 8 U 4 T 1 U 3 T 7 U 10 T 2 U 29 T 1 U 58 T 1 U 4 T 4 U 8 T 1 U 20 T 2 U
26 T 1 U 2 T 2 U 57 T 1 U 4 T 2 U 4 T 2 U 2 T 3 U 3 T 1 U 30 T 2 U 3 T 1 U 11 T 2 U 57 T 1 U 4 T 5 U 1 T 2 U
4 T 1 U 20 T 2 U 22 T 6 U 1 T 1 U 58 T 1 U 2 T 1 U 1 T 4 U 8 T 1 U 7 T 2 U 11 T 2 U 30 T 1 U 61 T 1 U 12 T 1
U 50 T 1 U 3 T 1 U 55 T 1 U 1 T 3 U 5 T 3 U 1 T 4 U 7 T 2 U 11 T 2 U 29 T 1 U 58 T 1 U 2 T 1 U 6 T 1 U 5 T 2
U 20 T 2 U 28 T 2 U 57 T 2 U 4 T 4 U 8 T 1 U 20 T 2 U 29 T 1 U 72 T 1 U 7 T 3 U 1 T 1 U 90 T 1 U 2 T 7 U 12
T 8 U 98 T 1 U 2 T 9 U 11 T 7 U 73 T 2 U 27 T 1 U 1 T 1 U 1 T 1 U 55 T 14 U 1 T 5 U 1 T 2 U 5 T 11 U 1 T 36
U 9 T 1 U 102 T 4 U 1 T 6 U 1 T 2 U 2 T 2 U 25 T 2 U 4 T 3 U 16 T 4 U 13 T 1 U 2 T 2 U 6 T 1 U 15 T 1 U 703
T 3 U 946 T 3 U 29 T 2 U 30 T 2 U 30 T 2 U 64 T 2 U 1 T 7 U 8 T 1 U 2 T 11 U 9 T 1 U 41 D 1 U 2 C 1 T 3 U 1
T 1 U 16 D 89 U 12 T 2 D 34 T 1 D 1 U 117 T 3 U 4 T 2 U 9 T 1 U 6 T 3 U 219 T 2 U 2 T 1 U 58 T 1 U 1 T 7 U 1
T 1 U 1 T 1 U 2 T 8 U 6 T 10 U 2 T 1 U 48 T 31 U 49 T 4 U 48 T 1 U 1 T 5 U 1 T 1 U 5 T 1 U 40 T 9 U 12 T 2 U
32 T 4 U 2 T 2 U 1 T 3 U 56 T 1 U 1 T 2 U 3 T 1 U 1 T 3 U 58 T 8 U 2 T 2 U 152 T 3 U 1 T 13 U 1 T 7 U 4 T 1
U 6 T 1 U 3 T 2 U 198 T 64 U 523 T 1 U 1 C 1 T 2 U 26 T 5 U 49 T 5 U 5 T 6 U 96 T 33 U 3070 T 3 U 141 T 1 U
96 T 32 U 554 T 4 U 107 T 2 U 30164 T 4 U 1 T 10 U 32 T 2 U 80 T 2 U 272 T 1 U 3 T 1 U 4 T 1 U 25 T 2 U 5 T
1 U 19 D 50 L 1 U 81 T 2 U 26 T 18 U 13 T 1 U 38 T 8 U 25 T 11 U 46 T 3 U 48 T 1 U 2 T 4 U 2 T 2 U 39 T 1 U
67 T 6 U 2 T 2 U 2 T 2 U 12 T 1 U 8 T 1 U 47 T 1 U 51 T 1 U 1 T 3 U 2 T 2 U 5 T 2 U 1 T 1 U 42 T 2 U 8 T 1 U
238 T 1 U 2 T 1 U 4 T 1 U 20272 T 1 U 737 T 16 U 16 T 16 U 207 T 1 U 249 T 3 U 513 T 1 U 226 T 1 U 149 T 5 U
1670 T 3 U 1 T 2 U 5 T 4 U 40 T 3 U 4 T 1 U 128 D 5 R 1 U 1 R 1 U 1 R 2 U 2 L 1 R 5 D 4 L 1 D 5 R 1 D 3 R 1
U 2 R 1 T 2 U 4 D 4 R 1 U 144 D 1 R 1 D 1 R 3 D 3 R 1 D 2 R 1 D 1 R 2 D 1 R 1 U 23 R 4 D 2 U 337 L 1 D 33 R
1 D 1 T 4 U 387 T 2 U 80 T 3 U 48 D 3 R 1 D 17 U 1 T 11 D 3 R 1 U 27 D 4 R 2 D 12 T 4 U 42 D 1 U 1 D 2 R 3 U
1 D 1 R 2 D 2 R 1 D 2 U 1 D 1 R 2 D 1 U 4 R 1 D 1 L 1 U 53 T 1 U 54 T 15 U 41 T 1 U 2 T 2 U 10 T 3 U 49 T 4
U 2 T 2 U 7 T 1 U 61 T 3 U 36 T 5 U 1 T 8 U 62 T 1 U 12 T 2 U 52 T 9 U 10 T 4 U 2 T 1 U 95 T 3 U 2 T 1 U 1 T
2 U 6 T 1 U 2 T 1 U 157 T 1 U 3 T 8 U 21 T 2 U 57 T 2 U 3 T 1 U 37 T 7 U 3 T 5 U 195 T 8 U 2 T 3 U 1 T 1 U
23 T 1 U 84 T 6 U 1 T 1 U 4 T 2 U 1 T 2 U 238 T 4 U 6 T 2 U 1 T 2 U 27 T 2 U 85 T 8 U 2 T 1 U 1 T 2 U 106 T
1 U 1 T 1 U 2 T 6 U 1 T 1 U 101 T 3 U 2 T 4 U 1 T 5 U 259 T 9 U 1 T 2 U 256 T 2 U 1 T 1 U 4 T 1 U 144 T 4 U
2 T 2 U 4 T 1 U 32 T 10 U 40 T 6 U 2 T 4 U 8 T 1 U 9 T 6 U 2 T 3 U 46 T 13 U 1 T 2 U 406 T 7 U 1 T 6 U 1 T 1
U 82 T 22 U 2 T 7 U 1 T 2 U 1 T 2 U 122 T 6 U 3 T 1 U 1 T 2 U 1 T 7 U 1 T 1 U 72 T 2 U 3 T 1 U 1 T 1 U 347 T
2 U 11 T 2 U 52 T 5 U 5 T 1 U 1 T 1 U 5357 T 17 U 6 T 15 U 13978 T 5 U 59 T 7 U 1048 T 1 U 63 T 4 U 81 T 1 U
19640 T 2 U 1 T 4 U 4700 T 46 U 2 T 23 U 544 T 3 U 9 T 16 U 2 T 7 U 30 T 4 U 148 T 3 U 1979 T 55 U 4 T 50 U
8 T 1 U 14 T 1 U 22 T 5 U 1 T 15 U 1360 T 7 U 1 T 17 U 2 T 7 U 1 T 2 U 1 T 5 U 100 T 1 U 160 T 7 U 375 T 1 U
61 T 4 U 508 T 4 U 992 T 7 U 41 D 68 T 8 U 792245 T 1 U 30 T 96 U 128 T 240 U 196112"

def joining (c : Char) : String := (joiningTable.value? c.toNat).getD "U"

end JsonSchema.Unicode

import PaymentConnector.Text.Span

/-!
Characters that may stand in a domain name as they are, as of version 15.1 of the
character standard, and characters that are left out of it.
-/

namespace PaymentConnector.Url.Domain

open Text

def validRuns : List String :=
  ["0 41 1a 25 21 7 1 1 1 2 1 1 1 2 4 2 3 1 3 1 17 1 7 21 1 1 1 1 1 1 1 1 1 1 1 1 1 1 1 1 1 1 1",
   "1 1 1 1 1 1 1 1 1 1 1 1 1 1 1 1 1 1 1 1 1 1 1 1 1 1 1 1 1 1 1 3 1 1 2 1 1 1 1 1 1 3 1 1 1 1",
   "1 1 1 2 1 1 1 1 1 1 1 1 1 1 1 1 1 1 1 1 1 1 1 1 1 1 1 1 1 1 1 1 1 1 1 1 1 1 1 1 1 1 1 1 1 1",
   "1 1 1 2 1 1 1 1 1 1 1 2 1 1 1 2 1 3 2 4 1 2 1 3 3 2 1 2 1 1 1 1 1 2 1 1 2 1 1 2 1 3 1 1 1 2",
   "3 1 7 a 1 1 1 1 1 1 1 1 1 1 1 1 1 1 2 1 1 1 1 1 1 1 1 1 1 1 1 1 1 1 1 1 2 4 1 3 1 1 1 1 1 1",
   "1 1 1 1 1 1 1 1 1 1 1 1 1 1 1 1 1 1 1 1 1 1 1 1 1 1 1 1 1 1 1 1 1 1 1 1 1 1 1 1 1 1 1 1 1 1",
   "1 1 1 1 1 1 7 2 1 2 2 1 1 4 1 1 1 1 1 1 1 1 61 9 1f 6 2 5 5b 2 1 3 9 1 20 1 1 1 1 1 1 1 1 3",
   "3 12 1 1b 23 8 1 1 1 1 1 1 1 1 1 1 1 1 1 1 1 1 1 1 1 1 1 1 1 1 1 3 1 2 1 1 1 2 2 33 30 1 1 1",
   "1 1 1 1 1 1 1 1 1 1 1 1 1 1 1 1 1 1 1 1 1 1 1 1 1 1 1 1 1 1 9 1 1 1 1 1 1 1 1 1 1 1 1 1 1 1",
   "1 1 1 1 1 1 1 1 1 1 1 1 1 1 1 1 1 1 1 1 1 1 1 1 1 1 1 1 1 1 1 1 1 1 1 1 1 1 1 2 1 1 1 1 1 1",
   "1 1 1 1 1 1 2 1 1 1 1 1 1 1 1 1 1 1 1 1 1 1 1 1 1 1 1 1 1 1 1 1 1 1 1 1 1 1 1 1 1 1 1 1 1 1",
   "1 1 1 1 1 1 1 1 1 1 1 1 1 1 1 1 1 1 1 1 1 1 1 1 1 1 1 1 1 1 1 1 1 1 1 1 1 1 1 1 1 1 1 1 1 1",
   "1 1 1 1 1 1 1 1 1 1 1 29 2e 1 3 2 3 1 37 8 1b 4 6 11 16 1 58 4 64 1 30 2 3b 2 65 e 3b 2 31 2",
   "f 1 1c 2 1 1 b 5 1f 9 4a 1 75 8 24 1 8 2 2 2 16 1 7 1 1 3 4 2 9 2 2 2 4 8 1 8 4 2 19 2 3 1 6",
   "4 2 2 16 1 7 1 1 2 1 2 2 2 1 1 5 4 2 2 3 3 1 a 1 9 11 a 3 1 9 1 3 1 16 1 7 1 2 1 5 2 a 1 3 1",
   "3 2 1 f 4 2 c 7 7 1 3 1 8 2 2 2 16 1 7 1 2 1 5 2 9 2 2 2 3 7 3 7 5 2 12 a 2 1 6 3 3 1 4 3 2",
   "1 1 1 2 3 2 3 3 3 c 4 5 3 3 1 4 2 1 6 1 e 15 5 d 1 3 1 17 1 10 2 9 1 3 1 4 7 2 1 3 2 1 2 4 2",
   "a 7 16 1 3 1 17 1 a 1 5 2 9 1 3 1 4 7 2 6 2 1 4 2 a 1 3 c d 1 3 1 33 1 3 1 6 4 10 2 1a 1 3 1",
   "12 3 18 1 9 1 1 2 7 3 1 4 6 1 1 1 8 6 a 2 3 c 32 1 7 4 1d 25 2 1 1 1 5 1 18 1 1 1 c 1 a 2 5",
   "1 1 1 7 1 a 4 2 20 c 1 36 1 4 1 4 1 4 1 4 1 4 1 c 1 3 4 2 1 1 5 7 1 11 1 4 1 4 1 4 1 4 1 4 1",
   "c 1 3 1 f 1 d 25 a0 30 2c 1 62 2 e8 1 4 2 7 1 1 1 4 2 29 1 4 2 21 1 4 2 7 1 1 1 4 2 f 1 39 1",
   "4 2 43 2 20 3 1a 6 56 a 280 1 1c 3 59 7 16 9 18 9 14 c d 1 3 1 2 c 34 2 28 2 a 6 a 6 b 5 a 6",
   "59 7 2b 5 46 a 1f 1 c 4 c 4 1 3 2a 2 5 b 2c 4 1a 6 b 3 3e 2 41 1 1d 2 b 6 a 6 e 2 1f 31 4d 3",
   "2f 1 74 8 3c 3 f 3 33 40 8 8 2b 5 2c 3 1 b 1 12 1 1c d 1 22 25 40 1 1 1 1 1 1 1 1 1 1 1 1 1",
   "1 1 1 1 1 1 1 1 1 1 1 1 1 1 1 1 1 1 1 1 1 1 1 1 1 1 1 1 1 1 1 1 1 1 1 1 1 1 1 1 1 1 1 1 1 1",
   "1 1 1 1 1 1 1 1 1 1 1 1 1 1 1 1 1 1 1 1 1 1 1 1 1 1 1 1 1 1 1 1 1 1 1 1 1 1 1 1 1 1 1 1 1 1",
   "1 1 1 1 1 1 1 1 1 1 1 1 1 1 1 1 1 1 1 1 1 1 1 1 1 1 1 1 1 1 1 1 1 1 1 1 1 1 1 1 1 1 1 1 5 2",
   "2 1 1 1 1 1 1 1 1 1 1 1 1 1 1 1 1 1 1 1 1 1 1 1 1 1 1 1 1 1 1 1 1 1 1 1 1 1 1 1 1 1 1 1 1 1",
   "1 1 1 1 1 1 1 1 1 1 1 1 1 1 1 1 1 1 1 1 1 1 1 1 1 1 1 1 1 1 1 1 1 1 1 1 1 1 1 1 1 1 1 1 1 1",
   "1 1 1 1 1 1 9 8 6 a 8 8 8 8 6 a 8 8 8 8 1 1 1 1 1 1 1 1 1 1 1 1 1 33 2 4 1 f 1 9 3 3 2 8 3 1",
   "4 e 1 15 2 2 1 1 5 1 c 3 1 8 3 2 1 2 4 1 1 1 8 3 d 1 7 41 8 1 18 f 21 13 1 3 1 b 1 2 2 5 2 3",
   "1 1 1 1 1 1 1 4 1 b 1 6 4 5 6 30 3 1 5 1 2 4 9c 2 1 2 f8 2 fc 19 b a0 521 1 67 3 65 1 97 2",
   "20 1 69 30 30 1 1 3 2 1 1 1 1 1 1 4 1 1 2 1 6 5 1 1 1 1 1 1 1 1 1 1 1 1 1 1 1 1 1 1 1 1 1 1",
   "1 1 1 1 1 1 1 1 1 1 1 1 1 1 1 1 1 1 1 1 1 1 1 1 1 1 1 1 1 1 1 1 1 1 1 1 1 1 1 1 1 1 1 1 1 1",
   "1 1 1 1 1 1 1 1 1 1 1 1 1 1 1 1 1 1 1 1 1 1 1 1 1 1 1 1 1 1 8 1 1 1 4 1 1 5 2d 1 1 5 1 2 38",
   "8 1 e 18 9 7 1 7 1 7 1 7 1 7 1 7 1 7 1 7 1 7e 22 1a 1 4 1 53 10e 1 1 33 1 1 3 5 1 56 2 2 2 2",
   "1 5f 6 2b 60 2 e 44 c 10 48 8 2f 1 180 708d 3 37 9 15c 15 1 1 1 1 1 1 1 1 1 1 1 1 1 1 1 1 1",
   "1 1 1 1 1 1 1 1 1 1 1 1 1 1 1 1 1 1 1 1 1 1 1 1 1 1 1 13 1 1 1 1 1 1 1 1 1 1 1 1 1 1 1 1 1 1",
   "1 1 1 1 1 1 1 1 1 1 2 5a 8 22 1 1 1 1 1 1 1 1 1 1 1 1 1 3 1 1 1 1 1 1 1 1 1 1 1 1 1 1 1 1 1",
   "1 1 1 1 1 1 1 1 1 1 1 1 1 1 1 1 1 1 1 1 1 1 1 1 1 1 1 1 1 1 1 1 1 1 1 1 1 1 1 1 1 1 1 1 1 1",
   "8 1 1 1 1 2 1 1 1 1 1 1 1 1 4 1 1 1 2 1 1 1 3 1 1 1 1 1 1 1 1 1 1 1 1 1 1 1 1 1 1 1 1 5 1 5",
   "1 1 1 1 1 1 1 1 1 1 1 1 1 1 1 4 1 1 1 6 1 1 1 1 1 1 1 1 1 1c 2 2 33 3 a 6 38 8 46 8 c 6 74 b",
   "1e 3 4e 1 b 4 21 1 37 9 e 2 a 2 67 18 1c a 6 2 6 2 6 9 7 1 7 1 2c 4 9 1 2 54 2e 2 a 6 2ba4 c",
   "17 4 31 2212 2 1 1 1 2 a 1 1 1 1 2 2 3 f4 1 93 11 17b 12 7f 1 2d 3 20 10 15 2 2c 1 18c c 1",
   "1a 1 13 1 2 1 f 2 e 22 7b 5 3 4 2d 3 58 1 d 3 1 2f 2e 82 1d 3 31 f 1c 4 24 9 1e 5 2b 5 1e 1",
   "25 4 e 52 76 2 a 2e 24 4 28 8 34 b 1 27 b 1 f 1 7 1 2 43 137 9 16 a 8 18 1 7f 6 2 1 1 2c 1 2",
   "3 1 2 17 1 48 8 9 30 13 1 2 5 21 3 1b 5 1 40 38 4 14 2 32 1 2 5 8 1 3 1 1d 2 3 4 a 7 9 7 40",
   "20 27 4 c 9 36 3 1d 2 1b 5 1a 7 4 c 7 50 49 77 33 7 2e 8 a 126 1f 1 2a 1 3 2 2 4b 2b 8 2a 16",
   "1a 26 1c 14 17 9 4e 4 24 9 3e 1 5 d 19 7 a 6 35 1 12 8 27 9 60 1 14 b 12 1 2f 3e 7 1 1 1 4 1",
   "f 1 b 6 3b 5 a 6 4 1 8 2 2 2 16 1 7 1 2 1 5 1 a 2 2 2 3 2 1 6 1 5 7 2 7 3 5 8b 5c 1 5 1e 48",
   "8 a a6 36 2 26 22 45 b a 6 d 13 3a 6 a 36 1b 2 f 4 17 b9 3c 84 33 c 8 2 1 2 8 1 2 1 1e 1 2 2",
   "c 9 a 46 8 2 2e 2 b 1b 48 8 53 d 49 7 a f6 9 1 2d 1 e a 1d 3 20 2 16 1 e 49 7 1 2 1 2c 3 1 1",
   "2 1 9 8 a 6 6 1 2 1 25 1 2 1 6 7 a 136 19 7 11 1 29 3 1c 56 1 f 32 d 39b 66 6f 1 5 b c4 a4c",
   "63 d 430 10 16 faa 247 21b9 239 7 1f 1 a 4 51 1 a 6 1e 2 6 a 46 a a 1 7 1 15 5 13 2d0 3b 65",
   "4b 4 39 7 11 40 5 b 2 e 17f8 8 4d6 2a 9 22e7 4 1 7 1 2 1 123 f 1 1d 3 2 1 e 4 8 18c 904 6b 5",
   "d 3 9 7 a 2 4 1260 2e 2 17 9 74 3c f6 a 27 2 35 7 e 8 40 6 2a 15 46 7a 14 c 14 c 57 9 19 487",
   "28c f 5 1 f 450 1f 6 6 d5 7 1 11 2 7 1 2 1 5 64 1 70 2d 3 e 2 a 4 2 140 1f 11 3a 5 1 1d0 2a",
   "2e6 7 1 4 1 2 1 f 1 c5 2 10 4b 2a 4 a 4 2 311 44 4c 3d 1b2 2 10e 2c 4 64 c f 2 f 1 f 1 25 15",
   "5 1f 1 20 1a 3 23 1 1d 38 1a 60 6 9a 3d8 4 11 3 d 3 77 4 5f 6 c 4 1 f c 4 38 8 a 6 28 8 1e 2",
   "2 4e 154 c e 2 d 3 9 7 2e 1 7 8 e 4 9 7 9 7 93 1 37 435 a6e0 20 103a 6 de 2 1682 e 1d31 f",
   "26e 11a2 134b 5 1060"]

def validSpans : List Span := decodeSpans validRuns

def isValid (c : Char) : Bool := inSpans validSpans c.toNat

def ignoredSpans : List Span :=
  [(0xAD, 0xAD), (0x34F, 0x34F), (0x180B, 0x180D), (0x180F, 0x180F), (0x200B, 0x200B),
   (0x2060, 0x2060), (0x2064, 0x2064), (0xFE00, 0xFE0F), (0xFEFF, 0xFEFF), (0x1BCA0, 0x1BCA3),
   (0xE0100, 0xE01EF)]

def isIgnored (c : Char) : Bool := inSpans ignoredSpans c.toNat

def markRuns : List String :=
  ["300 70 113 7 107 2d 1 1 1 2 1 2 1 1 48 b 30 15 10 1 65 7 2 6 2 2 1 4 23 1 1e 1b 5b b 3a 9 9",
   "1 18 4 1 9 1 3 1 5 2b 3 3c 8 2a 3a 36 3 1 12 1 7 a 2 1d 3 38 1 1 10 9 1 a 2 1a 6 38 16 1e 2",
   "3 1 b 3 38 1 1 10 14 2 16 a 38 1 1 1a a 2 1e 1 3b 10 9 1 28 5 37 1 1 19 b 2 1d 3 38 1 1 19 b",
   "2 f 11 37 2 1 10 9 1 a 2 1d 3 46 16 12 2 3d 1 2 7 c 8 62 1 2 9 b 7 49 2 1b 1 1 1 1 1 4 2 31",
   "14 1 2 5 30 9 1 64 14 17 4 4 3 1 3 2 7 3 4 d c 1 1 a 4 2bf 3 3b2 4 1c 3 1d 2 1e 2 42 1e 9 1",
   "a7 2 22 1 76 1c db 5 39 2b 30 55 2f 11 26 9 c 3 1e d 38 e 30 14 98 3 1 15 4 1 6 1 2 3 c6 40",
   "2d0 21 bfe 3 8d 1 60 20 22a 6 69 2 75d4 4 1 a 20 2 50 2 110 1 3 1 4 1 17 5 4 1 53 2 32 12 1a",
   "12 d 1 26 8 19 d 2c 4 2f e 24 1 43 e c 1 8 2 2d 3 32 1 1 3 2 2 5 2 1 1 29 5 5 2 ec 8 1 2",
   "4f30 1 301 10 3cd 1 e2 1 95 5 686 f 28 8 a5 2 23d 4 183 2 50 3 46 b 31 4 7a 3 35 f 29 1 2 2",
   "a 4 2d b 7 1 3d 3 24 e 10 2 2c 1 c 3 30 e 8 4 1 2 5c c 6 1 2 1 9d c 15 4 37 2 1 10 9 1 a 13",
   "c0 12 17 1 51 14 eb 12 1b 2 52 11 6a d 65 f 100 f f5 f 1 1 1 2 8d 10 3 1 1c a 28 7 1 4 8 1 9",
   "b 2e 10 195 11 52 25 7a 15 1 1 42 e 15b 4 9 2 1 1 30 f 14fd 1 6 f 369a 5 3b 7 418 1 1 42 51",
   "e 4cab 2 1261 47 21e 5 3 16 2 7 1e 4 94 3 7bb 37 4 32 8 1 e 1 16 15 550 90 a0 7 177 1 3d 4",
   "1fc 4 3e0 7 6d 7"]

def markSpans : List Span := decodeSpans markRuns

/-- Marks, which combine with the character before them. -/
def isMark (c : Char) : Bool := inSpans markSpans c.toNat

end PaymentConnector.Url.Domain

import ResilientChannel.Url.Domain.Numerals

/-!
Labels in which text may run from right to left.

Once one character of a name runs from right to left, every label has to keep to one direction, so
that the name cannot be shown in two ways: `Direction.isUniform` is the rule for a label,
`Direction.agrees` the one for a name.
-/

namespace ResilientChannel.Url.Domain

/-- The directional classes of characters. -/
inductive Direction
  | left
  | right
  | arabicLetter
  | arabicNumber
  | europeanNumber
  | separator
  | commonSeparator
  | terminator
  | other
  | boundary
  | mark
deriving DecidableEq, Repr, Inhabited

namespace Direction

/-- The runs of `runs` within Latin-1. -/
def runsLatin : String := "a1 1 7 a2 4 6 a6 9 7 b0 2 6 b6 22 7 f7 1 7 "

/-- Runs of characters of other directions than left to right: the first, how many, and the place of
their class in `Direction.coded`. -/
def runs : String := runsLatin ++
  "2b9 2 7 2c2 e 7 2d2 1c 7 2ef 11 7 300 70 9 375 1
   7 3f6 1 7 483 7 9 58a 5 7 58f 1 6 591 2d 9 5be 1 0 5bf 1 9 5c0 1 0 5c1 2 9 5c3 1 0 5c4 2 9
   5c6 1 0 5c7 1 9 5d0 25 0 606 2 7 608 1 1 609 2 6 60b 1 1 60c 1 5 60d 1 1 60e 2 7 610 b 9 61b
   30 1 64b 15 9 660 a 2 66a 1 6 66b 2 2 66d 3 1 670 1 9 671 65 1 6d6 7 9 6de 1 7 6df 6 9 6e5 2
   1 6e7 2 9 6e9 1 7 6ea 4 9 6ee 2 1 6f0 a 3 6fa 17 1 711 1 9 712 1e 1 730 1b 9 74d 59 1 7a6 b
   9 7b1 1 1 7c0 2b 0 7eb 9 9 7f4 2 0 7f6 4 7 7fa 1 0 7fd 1 9 7fe 18 0 816 4 9 81a 1 0 81b 9 9
   824 1 0 825 3 9 828 1 0 829 5 9 830 29 0 859 3 9 85e 1 0 860 2f 1 898 8 9 8a0 2a 1 8ca 39 9
   93a 1 9 93c 1 9 941 8 9 94d 1 9 951 7 9 962 2 9 981 1 9 9bc 1 9 9c1 4 9 9cd 1 9 9e2 2 9 9f2
   2 6 9fb 1 6 9fe 5 9 a3c 1 9 a41 11 9 a70 2 9 a75 1 9 a81 2 9 abc 1 9 ac1 8 9 acd 1 9 ae2 2 9
   af1 1 6 afa 8 9 b3c 1 9 b3f 1 9 b41 4 9 b4d a 9 b62 2 9 b82 1 9 bc0 1 9 bcd 1 9 bf3 6 7 bf9
   1 6 bfa 1 7 c00 1 9 c04 1 9 c3c 1 9 c3e 3 9 c46 11 9 c62 2 9 c78 7 7 c81 1 9 cbc 1 9 ccc 2 9
   ce2 2 9 d00 2 9 d3b 2 9 d41 4 9 d4d 1 9 d62 2 9 d81 1 9 dca 1 9 dd2 5 9 e31 1 9 e34 7 9 e3f
   1 6 e47 8 9 eb1 1 9 eb4 9 9 ec8 7 9 f18 2 9 f35 1 9 f37 1 9 f39 1 9 f3a 4 7 f71 e 9 f80 5 9
   f86 2 9 f8d 30 9 fc6 1 9 102d 4 9 1032 6 9 1039 2 9 103d 2 9 1058 2 9 105e 3 9 1071 4 9 1082
   1 9 1085 2 9 108d 1 9 109d 1 9 135d 3 9 1390 a 7 1400 1 7 169b 2 7 1712 3 9 1732 2 9 1752 2
   9 1772 2 9 17b7 7 9 17c6 1 9 17c9 b 9 17db 1 6 17dd 1 9 17f0 1b 7 1885 2 9 18a9 1 9 1920 3 9
   1927 2 9 1932 1 9 1939 3 9 1940 6 7 19de 22 7 1a17 2 9 1a1b 1 9 1a56 1 9 1a58 9 9 1a62 1 9
   1a65 8 9 1a73 d 9 1ab0 54 9 1b34 1 9 1b36 5 9 1b3c 1 9 1b42 1 9 1b6b 9 9 1b80 2 9 1ba2 4 9
   1ba8 2 9 1bab 3 9 1be6 1 9 1be8 2 9 1bed 1 9 1bef 3 9 1c2c 8 9 1c36 2 9 1cd0 3 9 1cd4 d 9
   1ce2 7 9 1ced 1 9 1cf4 1 9 1cf8 2 9 1dc0 40 9 200c 2 8 2010 18 7 2030 3 6 2035 f 7 2044 1 5
   2045 1a 7 20a0 21 6 20d0 21 9 2104 26 7 212e 1 6 213a 14 7 218a 88 7 2212 1 4 2213 1 6 2214
   122 7 237b 1a 7 2396 316 7 26ad 153 7 2900 300 7 2ce5 6 7 2cef 3 9 2cf9 7 7 2d7f 1 9 2de0 20
   9 2e00 205 7 3008 19 7 302a 4 9 3030 1 7 3037 1 7 303d 3 7 3099 2 9 30a0 1 7 30fb 1 7 31c0
   24 7 4dc0 40 7 a490 37 7 a60d 3 7 a66f 4 9 a673 1 7 a674 a 9 a67e 2 7 a69e 2 9 a6f0 2 9 a700
   22 7 a788 1 7 a802 1 9 a806 1 9 a80b 1 9 a825 2 9 a828 4 7 a82c 1 9 a838 2 6 a874 4 7 a8c4 2
   9 a8e0 12 9 a8ff 1 9 a926 8 9 a947 b 9 a980 3 9 a9b3 1 9 a9b6 4 9 a9bc 2 9 a9e5 1 9 aa29 6 9
   aa31 2 9 aa35 2 9 aa43 1 9 aa4c 1 9 aa7c 1 9 aab0 1 9 aab2 3 9 aab7 2 9 aabe 2 9 aac1 1 9
   aaec 2 9 aaf6 1 9 ab6a 2 7 abe5 1 9 abe8 1 9 abed 1 9 fb1e 1 9 fbb2 11 1 fd3e c2 7 fe20 10 9
   fe45 2 7 fe73 1 1 10101 1 7 10140 4d 7 10190 11 7 101fd 1 9 102e0 1 9 102e1 1b 3 10376 5 9
   10800 11c 0 1091f 1 7 10920 e1 0 10a01 f 9 10a10 26 0 10a38 8 9 10a40 a5 0 10ae5 2 9 10aeb
   4b 0 10b39 7 7 10b40 1c0 0 10d00 24 1 10d24 4 9 10d30 14f 2 10e80 2a 0 10eab 2 9 10ead 5 0
   10efd 3 9 10f00 28 0 10f30 16 1 10f46 b 9 10f51 9 1 10f70 12 0 10f82 4 9 10f86 71 0 11001 1
   9 11038 f 9 11052 14 7 11070 1 9 11073 2 9 1107f 3 9 110b3 4 9 110b9 2 9 110c2 1 9 11100 3 9
   11127 5 9 1112d 8 9 11173 1 9 11180 2 9 111b6 9 9 111c9 4 9 111cf 1 9 1122f 3 9 11234 1 9
   11236 2 9 1123e 1 9 11241 1 9 112df 1 9 112e3 8 9 11300 2 9 1133b 2 9 11340 1 9 11366 f 9
   11438 8 9 11442 3 9 11446 1 9 1145e 1 9 114b3 6 9 114ba 1 9 114bf 2 9 114c2 2 9 115b2 4 9
   115bc 2 9 115bf 2 9 115dc 2 9 11633 8 9 1163d 1 9 1163f 2 9 11660 d 7 116ab 1 9 116ad 1 9
   116b0 6 9 116b7 1 9 1171d 3 9 11722 4 9 11727 5 9 1182f 9 9 11839 2 9 1193b 2 9 1193e 1 9
   11943 1 9 119d4 8 9 119e0 1 9 11a01 6 9 11a09 2 9 11a33 6 9 11a3b 4 9 11a47 1 9 11a51 6 9
   11a59 3 9 11a8a d 9 11a98 2 9 11c30 e 9 11c92 16 9 11caa 7 9 11cb2 2 9 11cb5 2 9 11d31 15 9
   11d47 1 9 11d90 2 9 11d95 1 9 11d97 1 9 11ef3 2 9 11f00 2 9 11f36 5 9 11f40 1 9 11f42 1 9
   11fd5 8 7 11fdd 4 6 11fe1 11 7 13440 1 9 13447 f 9 16af0 5 9 16b30 7 9 16f4f 1 9 16f8f 4 9
   16fe2 1 7 16fe4 1 9 1bc9d 2 9 1cf00 47 9 1d167 3 9 1d17b 8 9 1d185 7 9 1d1aa 4 9 1d1e9 59 7
   1d242 3 9 1d245 1 7 1d300 57 7 1da00 37 9 1da3b 32 9 1da75 1 9 1da84 1 9 1da9b 15 9 1e000 90
   9 1e130 7 9 1e2ae 1 9 1e2ec 4 9 1e2ff 1 6 1e4ec 4 9 1e800 d0 0 1e8d0 7 9 1e922 22 0 1e944 7
   9 1e94b 15 0 1ec71 cd 1 1eef0 240 7 1f16d 3 7 1f1ad 1 7 1f260 96b 7"

/-- The rows of `runs`. -/
def table : Array Run := Run.ofTriples runs

/-- The classes in the order in which `runs` counts them. -/
def coded : List Direction :=
  [right, arabicLetter, arabicNumber, europeanNumber, separator, commonSeparator, terminator,
    other, boundary, mark]

/-- The class of a character within ASCII. -/
def ofAscii (c : Char) : Direction :=
  if c.isAlpha then left
  else if c.isDigit then europeanNumber
  else if c ∈ ['+', '-'] then separator
  else if c ∈ [',', '.', '/', ':'] then commonSeparator
  else if c ∈ ['#', '$', '%'] then terminator
  else other

/-- The class of a character. -/
def ofChar (c : Char) : Direction :=
  if c.toNat < 0x80 then ofAscii c
  else (((Run.value? table c).bind (coded[·]?))).getD left

/-- The characters of this class run from right to left. -/
def isRightToLeft (d : Direction) : Bool := d ∈ [right, arabicLetter, arabicNumber]

/-- Classes that may stand anywhere in a label of either direction. -/
def isNeutral (d : Direction) : Bool :=
  d ∈ [europeanNumber, separator, commonSeparator, terminator, other, boundary, mark]

/-- The last class that is not a mark. -/
def last? (ds : List Direction) : Option Direction := (ds.filter (· ≠ mark)).getLast?

/-- The rule for a label: its first character sets the direction, the others may not run against it,
and it ends in that direction or in a number; numbers of both kinds do not mix. -/
def isUniform (label : List Char) : Bool :=
  let ds := label.map ofChar
  match ds with
  | [] => true
  | left :: _ =>
    ds.all (fun d => d = left || d.isNeutral) && (last? ds).any (· ∈ [left, europeanNumber])
  | first :: _ =>
    first ∈ [right, arabicLetter] &&
      ds.all (fun d => d.isRightToLeft || d.isNeutral) &&
      (last? ds).any (· ∈ [right, arabicLetter, europeanNumber, arabicNumber]) &&
      !(europeanNumber ∈ ds && arabicNumber ∈ ds)

/-- The rule for a name. -/
def agrees (labels : List (List Char)) : Bool :=
  !labels.any (·.any (ofChar · |>.isRightToLeft)) || labels.all isUniform

end Direction

end ResilientChannel.Url.Domain

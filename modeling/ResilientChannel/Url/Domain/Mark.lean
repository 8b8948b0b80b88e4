import ResilientChannel.Url.Domain.Numerals

/-!
Combining marks, with which no label of a domain name may begin.
-/

namespace ResilientChannel.Url.Domain.Mark

/-- Runs of combining marks: the first and how many. -/
def runs : String :=
  "300 40 342 1 346 9 350 20 483 7 591 2d 5bf 1 5c1 2 5c4 2 5c7 1 610 b 64b 15 670 1 6d6 7 6df
   6 6e7 2 6ea 4 711 1 730 1b 7a6 b 7eb 9 7fd 1 816 4 81b 9 825 3 829 5 859 3 898 8 8ca 18 8e3
   21 93a 3 93e 12 951 7 962 2 981 3 9bc 1 9be 7 9c7 2 9cb 3 9d7 1 9e2 2 9fe 1 a01 3 a3c 1 a3e
   5 a47 2 a4b 3 a51 1 a70 2 a75 1 a81 3 abc 1 abe 8 ac7 3 acb 3 ae2 2 afa 6 b01 3 b3c 1 b3e 7
   b47 2 b4b 3 b55 3 b62 2 b82 1 bbe 5 bc6 3 bca 4 bd7 1 c00 5 c3c 1 c3e 7 c46 3 c4a 4 c55 2
   c62 2 c81 3 cbc 1 cbe 7 cc6 3 cca 4 cd5 2 ce2 2 cf3 1 d00 4 d3b 2 d3e 7 d46 3 d4a 4 d57 1
   d62 2 d81 3 dca 1 dcf 6 dd6 1 dd8 8 df2 2 e31 1 e34 7 e47 8 eb1 1 eb4 9 ec8 7 f18 2 f35 1
   f37 1 f39 1 f3e 2 f71 2 f74 1 f7a 7 f82 3 f86 2 f8d 6 f94 4 f99 4 f9e 4 fa3 4 fa8 4 fad c
   fba 3 fc6 1 102b 14 1056 4 105e 3 1062 3 1067 7 1071 4 1082 c 108f 1 109a 4 135d 3 1712 4
   1732 3 1752 2 1772 2 17b6 1e 17dd 1 1885 2 18a9 1 1920 c 1930 c 1a17 5 1a55 a 1a60 1d 1a7f 1
   1ab0 1f 1b00 5 1b34 11 1b6b 9 1b80 3 1ba1 d 1be6 e 1c24 14 1cd0 3 1cd4 15 1ced 1 1cf4 1 1cf7
   3 1dc0 40 20d0 21 2cef 3 2d7f 1 2de0 20 302a 6 3099 2 a66f 4 a674 a a69e 2 a6f0 2 a802 1
   a806 1 a80b 1 a823 5 a82c 1 a880 2 a8b4 12 a8e0 12 a8ff 1 a926 8 a947 d a980 4 a9b3 e a9e5 1
   aa29 e aa43 1 aa4c 2 aa7b 3 aab0 1 aab2 3 aab7 2 aabe 2 aac1 1 aaeb 5 aaf5 2 abe3 8 abec 2
   fb1e 1 fe20 10 101fd 1 102e0 1 10376 5 10a01 3 10a05 2 10a0c 4 10a38 3 10a3f 1 10ae5 2 10d24
   4 10eab 2 10efd 3 10f46 b 10f82 4 11000 3 11038 f 11070 1 11073 2 1107f 4 110b0 b 110c2 1
   11100 3 11127 e 11145 2 11173 1 11180 3 111b3 e 111c9 4 111ce 2 1122c c 1123e 1 11241 1
   112df c 11300 4 1133b 2 1133e 7 11347 2 1134b 3 11357 1 11362 2 11366 7 11370 5 11435 12
   1145e 1 114b0 14 115af 7 115b8 9 115dc 2 11630 11 116ab d 1171d f 1182c f 11930 6 11937 2
   1193b 4 11940 1 11942 2 119d1 7 119da 7 119e4 1 11a01 a 11a33 7 11a3b 4 11a47 1 11a51 b
   11a8a 10 11c2f 8 11c38 8 11c92 16 11ca9 e 11d31 6 11d3a 1 11d3c 2 11d3f 7 11d47 1 11d8a 5
   11d90 2 11d93 5 11ef3 4 11f00 2 11f03 1 11f34 7 11f3e 5 13440 1 13447 f 16af0 5 16b30 7
   16f4f 1 16f51 37 16f8f 4 16fe4 1 16ff0 2 1bc9d 2 1cf00 2e 1cf30 17 1d165 5 1d16d 6 1d17b 8
   1d185 7 1d1aa 4 1d242 3 1da00 37 1da3b 32 1da75 1 1da84 1 1da9b 5 1daa1 f 1e000 7 1e008 11
   1e01b 7 1e023 2 1e026 5 1e08f 1 1e130 7 1e2ae 1 1e2ec 4 1e4ec 4 1e8d0 7 1e944 7"

/-- The rows of `runs`. -/
def table : Array Run := Run.ofPairs runs

/-- The character is a combining mark. -/
def isMark (c : Char) : Bool := 0x300 ≤ c.toNat && table.any (·.contains c)

end ResilientChannel.Url.Domain.Mark

import ResilientChannel.Url.Domain.Composition

/-!
Where the two invisible joiners may stand.

Either joiner may follow a virama. The non-joiner may also stand between two characters that would
join across it, with transparent ones in between (`Joining.isAllowed`).
-/

namespace ResilientChannel.Url.Domain

/-- How a character joins its neighbours: only the one before it, only the one after it, both, or
none while letting them join across it. -/
inductive JoiningType
  | left
  | right
  | dual
  | transparent
deriving DecidableEq, Repr, Inhabited

namespace JoiningType

/-- Runs of joining characters: the first, how many, and the place of their type in
`JoiningType.coded`. -/
def runs : String :=
  "300 70 3 483 7 3 591 2d 3 5bf 1 3 5c1 2 3 5c4 2 3 5c7 1 3 610 b 3 620 1 2 622 4 1 626 1 2
   627 1 1 628 1 2 629 1 1 62a 5 2 62f 4 1 633 d 2 641 7 2 648 1 1 649 2 2 64b 15 3 66e 2 2 670
   1 3 671 3 1 679 f 2 688 12 1 69a 26 2 6c0 1 1 6c1 2 2 6c3 9 1 6cc 1 2 6cd 1 1 6ce 1 2 6cf 1
   1 6d0 2 2 6d2 2 1 6d5 1 1 6d6 7 3 6df 6 3 6e7 2 3 6ea 4 3 6ee 2 1 6fa 3 2 6ff 1 2 710 1 1
   711 1 3 712 3 2 715 5 1 71a 4 2 71e 1 1 71f 9 2 728 1 1 729 1 2 72a 1 1 72b 1 2 72c 1 1 72d
   2 2 72f 1 1 730 1b 3 74d 1 1 74e b 2 759 3 1 75c f 2 76b 2 1 76d 4 2 771 1 1 772 1 2 773 2 1
   775 3 2 778 2 1 77a 6 2 7a6 b 3 7ca 21 2 7eb 9 3 7fd 1 3 816 4 3 81b 9 3 825 3 3 829 5 3 840
   1 1 841 5 2 846 2 1 848 1 2 849 1 1 84a a 2 854 1 1 855 1 2 856 3 1 859 3 3 860 1 2 862 4 2
   867 1 1 868 1 2 869 1a 1 886 1 2 889 5 2 88e 1 1 898 8 3 8a0 a 2 8aa 3 1 8ae 1 1 8af 2 2 8b1
   2 1 8b3 6 2 8b9 1 1 8ba f 2 8ca 39 3 93a 1 3 93c 1 3 941 8 3 94d 1 3 951 7 3 962 2 3 981 1 3
   9bc 1 3 9c1 4 3 9cd 1 3 9e2 2 3 9fe 5 3 a3c 1 3 a41 11 3 a70 2 3 a75 1 3 a81 2 3 abc 1 3 ac1
   8 3 acd 1 3 ae2 2 3 afa 8 3 b3c 1 3 b3f 1 3 b41 4 3 b4d a 3 b62 2 3 b82 1 3 bc0 1 3 bcd 1 3
   c00 1 3 c04 1 3 c3c 1 3 c3e 3 3 c46 11 3 c62 2 3 c81 1 3 cbc 1 3 cbf 1 3 cc6 1 3 ccc 2 3 ce2
   2 3 d00 2 3 d3b 2 3 d41 4 3 d4d 1 3 d62 2 3 d81 1 3 dca 1 3 dd2 5 3 e31 1 3 e34 7 3 e47 8 3
   eb1 1 3 eb4 9 3 ec8 7 3 f18 2 3 f35 1 3 f37 1 3 f39 1 3 f71 e 3 f80 5 3 f86 2 3 f8d 30 3 fc6
   1 3 102d 4 3 1032 6 3 1039 2 3 103d 2 3 1058 2 3 105e 3 3 1071 4 3 1082 1 3 1085 2 3 108d 1
   3 109d 1 3 135d 3 3 1712 3 3 1732 2 3 1752 2 3 1772 2 3 17b7 7 3 17c6 1 3 17c9 b 3 17dd 1 3
   1807 1 2 1820 59 2 1885 2 3 1887 22 2 18a9 1 3 18aa 1 2 1920 3 3 1927 2 3 1932 1 3 1939 3 3
   1a17 2 3 1a1b 1 3 1a56 1 3 1a58 9 3 1a62 1 3 1a65 8 3 1a73 d 3 1ab0 54 3 1b34 1 3 1b36 5 3
   1b3c 1 3 1b42 1 3 1b6b 9 3 1b80 2 3 1ba2 4 3 1ba8 2 3 1bab 3 3 1be6 1 3 1be8 2 3 1bed 1 3
   1bef 3 3 1c2c 8 3 1c36 2 3 1cd0 3 3 1cd4 d 3 1ce2 7 3 1ced 1 3 1cf4 1 3 1cf8 2 3 1dc0 40 3
   20d0 21 3 2cef 3 3 2d7f 1 3 2de0 20 3 302a 4 3 3099 2 3 a66f 4 3 a674 a 3 a69e 2 3 a6f0 2 3
   a802 1 3 a806 1 3 a80b 1 3 a825 2 3 a82c 1 3 a840 32 2 a872 1 0 a8c4 2 3 a8e0 12 3 a8ff 1 3
   a926 8 3 a947 b 3 a980 3 3 a9b3 1 3 a9b6 4 3 a9bc 2 3 a9e5 1 3 aa29 6 3 aa31 2 3 aa35 2 3
   aa43 1 3 aa4c 1 3 aa7c 1 3 aab0 1 3 aab2 3 3 aab7 2 3 aabe 2 3 aac1 1 3 aaec 2 3 aaf6 1 3
   abe5 1 3 abe8 1 3 abed 1 3 fb1e 1 3 fe20 10 3 101fd 1 3 102e0 1 3 10376 5 3 10a01 f 3 10a38
   8 3 10ac0 5 2 10ac5 1 1 10ac7 1 1 10ac9 2 1 10acd 1 0 10ace 5 1 10ad3 4 2 10ad7 1 0 10ad8 5
   2 10add 1 1 10ade 3 2 10ae1 1 1 10ae4 1 1 10ae5 2 3 10aeb 4 2 10aef 1 1 10b80 1 2 10b81 1 1
   10b82 1 2 10b83 3 1 10b86 3 2 10b89 1 1 10b8a 2 2 10b8c 1 1 10b8d 1 2 10b8e 2 1 10b90 1 2
   10b91 1 1 10ba9 4 1 10bad 2 2 10d00 1 0 10d01 21 2 10d22 1 1 10d23 1 2 10d24 4 3 10eab 2 3
   10efd 3 3 10f30 3 2 10f33 1 1 10f34 11 2 10f46 b 3 10f51 3 2 10f54 1 1 10f70 4 2 10f74 2 1
   10f76 c 2 10f82 4 3 10fb0 1 2 10fb2 2 2 10fb4 3 1 10fb8 1 2 10fb9 2 1 10fbb 2 2 10fbd 1 1
   10fbe 2 2 10fc1 1 2 10fc2 2 1 10fc4 1 2 10fc9 1 1 10fca 1 2 10fcb 1 0 11001 1 3 11038 f 3
   11070 1 3 11073 2 3 1107f 3 3 110b3 4 3 110b9 2 3 110c2 1 3 11100 3 3 11127 5 3 1112d 8 3
   11173 1 3 11180 2 3 111b6 9 3 111c9 4 3 111cf 1 3 1122f 3 3 11234 1 3 11236 2 3 1123e 1 3
   11241 1 3 112df 1 3 112e3 8 3 11300 2 3 1133b 2 3 11340 1 3 11366 f 3 11438 8 3 11442 3 3
   11446 1 3 1145e 1 3 114b3 6 3 114ba 1 3 114bf 2 3 114c2 2 3 115b2 4 3 115bc 2 3 115bf 2 3
   115dc 2 3 11633 8 3 1163d 1 3 1163f 2 3 116ab 1 3 116ad 1 3 116b0 6 3 116b7 1 3 1171d 3 3
   11722 4 3 11727 5 3 1182f 9 3 11839 2 3 1193b 2 3 1193e 1 3 11943 1 3 119d4 8 3 119e0 1 3
   11a01 a 3 11a33 6 3 11a3b 4 3 11a47 1 3 11a51 6 3 11a59 3 3 11a8a d 3 11a98 2 3 11c30 e 3
   11c3f 1 3 11c92 16 3 11caa 7 3 11cb2 2 3 11cb5 2 3 11d31 15 3 11d47 1 3 11d90 2 3 11d95 1 3
   11d97 1 3 11ef3 2 3 11f00 2 3 11f36 5 3 11f40 1 3 11f42 1 3 13440 1 3 13447 f 3 16af0 5 3
   16b30 7 3 16f4f 1 3 16f8f 4 3 16fe4 1 3 1bc9d 2 3 1cf00 47 3 1d167 3 3 1d17b 8 3 1d185 7 3
   1d1aa 4 3 1d242 3 3 1da00 37 3 1da3b 32 3 1da75 1 3 1da84 1 3 1da9b 15 3 1e000 90 3 1e130 7
   3 1e2ae 1 3 1e2ec 4 3 1e4ec 4 3 1e8d0 7 3 1e922 22 2 1e944 8 3"

/-- The rows of `runs`. -/
def table : Array Run := Run.ofTriples runs

/-- The types in the order in which `runs` counts them. -/
def coded : List JoiningType := [left, right, dual, transparent]

/-- How a character joins, if it does. -/
def ofChar? (c : Char) : Option JoiningType := (Run.value? table c).bind (coded[·]?)

end JoiningType

namespace Joining

/-- The non-joiner. -/
def nonJoiner : Char := Char.ofNat 0x200c

/-- The joiner. -/
def joiner : Char := Char.ofNat 0x200d

/-- The type of the first character that is not transparent. -/
def firstType? (cs : List Char) : Option JoiningType :=
  (cs.map JoiningType.ofChar?).find? (· ≠ some .transparent) |>.join

/-- The character between what is before it, from the end, and what is after it. -/
def fits (before : List Char) (c : Char) (after : List Char) : Bool :=
  if c = joiner ∨ c = nonJoiner then
    (before.head?.any fun d => Composition.combiningClass d = 9) ||
      (c = nonJoiner &&
        (firstType? before).any (· ∈ [.left, .dual]) &&
        (firstType? after).any (· ∈ [.right, .dual]))
  else true

/-- Every joiner fits, given what is before the text, from the end. -/
def isAllowed (before : List Char) : List Char → Bool
  | [] => true
  | c :: rest => fits before c rest && isAllowed (c :: before) rest

end Joining

end ResilientChannel.Url.Domain

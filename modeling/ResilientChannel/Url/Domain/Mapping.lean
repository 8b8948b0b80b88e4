import ResilientChannel.Url.Domain.Numerals

/-!
What the characters of a domain name are mapped to.

The mapping of international domain names (nontransitional, without the restrictions on ASCII):
letters go to lower case, compatibility characters to what they are compatible with, some characters
vanish, and the rest stand for themselves or are not allowed. Within ASCII only the upper-case
letters are mapped (`Mapping.image?`).
-/

namespace ResilientChannel.Url.Domain.Mapping

/-! ### Tables -/

/-- Characters mapped in arithmetic progression: the first, how many, the step between them, the
target of the first, and the step between targets. -/
def progressions : String :=
  "b2 2 1 32 1 c0 17 1 e0 1 d8 7 1 f8 1 100 18 2 101 2 134 2 2 135 2 139 3 2 13a 2 141 4 2 142
   2 14a 17 2 14b 2 179 3 2 17a 2 182 2 2 183 2 189 2 1 256 1 1a0 3 2 1a1 2 1b1 2 1 28a 1 1b3 2
   2 1b4 2 1cd 8 2 1ce 2 1de 9 2 1df 2 1f8 14 2 1f9 2 222 9 2 223 2 246 5 2 247 2 2b0 2 2 68 2
   340 2 1 300 1 370 2 2 371 2 388 3 1 3ad 1 38e 2 1 3cd 1 391 11 1 3b1 1 3a3 9 1 3c3 1 3d8 c 2
   3d9 2 3fd 3 1 37b 1 400 10 1 450 1 410 20 1 430 1 460 11 2 461 2 48a 1b 2 48b 2 4c1 7 2 4c2
   2 4d0 30 2 4d1 2 531 26 1 561 1 13f8 6 1 13f0 1 1c83 2 1 441 1 1c90 2b 1 10d0 1 1cbd 3 1
   10fd 1 1d2e 2 2 62 2 1d31 5 2 65 2 1d34 4 2 68 2 1d40 2 1 74 1 1d44 2 1 250 1 1d48 2 1 64 1
   1d4b 2 1 25b 1 1d50 2 2 6d 2 1d54 2 1 1d16 1 1d57 2 1 74 1 1d5d 3 1 3b2 1 1d60 2 1 3c6 1
   1d64 2 1 75 1 1d66 2 1 3b2 1 1d69 2 1 3c6 1 1da4 3 1 268 1 1dae 4 1 272 1 1db3 2 1 282 1
   1db6 2 1 289 1 1db9 2 1 28b 1 1dbc 3 1 290 1 1e00 4b 2 1e01 2 1ea0 30 2 1ea1 2 1f08 8 1 1f00
   1 1f18 6 1 1f10 1 1f28 8 1 1f20 1 1f38 8 1 1f30 1 1f48 6 1 1f40 1 1f59 4 2 1f51 2 1f68 8 1
   1f60 1 1fb8 2 1 1fb0 1 1fc8 2 2 1f72 2 1fd8 2 1 1fd0 1 1fe8 2 1 1fe0 1 1ff9 2 2 3cc 2 2000 b
   1 20 0 2074 6 1 34 1 207d 2 1 28 1 2080 a 1 30 1 208d 2 1 28 1 2096 4 1 6b 1 209b 2 1 73 1
   210a 2 1 67 1 210c 3 1 68 0 2110 2 1 69 0 2112 2 1 6c 0 2119 3 1 70 1 211c 2 1 72 0 212c 2 1
   62 1 212f 2 1 65 0 2135 4 1 5d0 1 213d 2 1 3b3 0 2145 2 1 64 0 2148 2 1 69 1 216d 2 1 63 1
   217d 2 1 63 1 2329 2 1 3008 1 2460 9 1 31 1 24b6 1a 1 61 1 24d0 1a 1 61 1 2c00 30 1 2c30 1
   2c67 3 2 2c68 2 2c7e 2 1 23f 1 2c80 32 2 2c81 2 2ceb 2 2 2cec 2 3039 2 1 5344 1 3131 2 1
   1100 1 3133 2 2 11aa 2 3137 3 1 1103 1 313a 6 1 11b0 1 3141 3 1 1106 1 3145 a 1 1109 1 314f
   15 1 1161 1 3165 2 1 1114 1 3167 2 1 11c7 1 3171 2 1 111d 1 3174 2 1 1122 1 3178 5 1 112b 1
   3182 2 1 11f1 1 3184 3 1 1157 1 3187 2 1 1184 1 318a 2 1 1191 1 3261 2 1 1102 1 3263 3 1
   1105 1 3267 2 1 110b 1 3269 5 1 110e 1 32d4 2 1 30aa 1 32e4 6 1 30ca 1 32ee 5 1 30de 1 32f5
   6 1 30e8 1 32fb 4 1 30ef 1 a640 17 2 a641 2 a680 e 2 a681 2 a722 7 2 a723 2 a732 1f 2 a733 2
   a779 2 2 a77a 2 a77e 5 2 a77f 2 a790 2 2 a791 2 a796 a 2 a797 2 a7b4 8 2 a7b5 2 a7c7 2 2
   a7c8 2 a7d6 2 2 a7d7 2 ab70 50 1 13a0 1 f907 2 1 9f9c 0 fa52 2 1 798d 1 fa5d 2 1 8279 0 fb22
   2 1 5d3 1 fb24 3 1 5db 1 fb50 2 1 671 0 fb52 4 1 67b 0 fb56 4 1 67e 0 fb5a 4 1 680 0 fb5e 4
   1 67a 0 fb62 4 1 67f 0 fb66 4 1 679 0 fb6a 4 1 6a4 0 fb6e 4 1 6a6 0 fb72 4 1 684 0 fb76 4 1
   683 0 fb7a 4 1 686 0 fb7e 4 1 687 0 fb82 2 1 68d 0 fb84 2 1 68c 0 fb86 2 1 68e 0 fb88 2 1
   688 0 fb8a 2 1 698 0 fb8c 2 1 691 0 fb8e 4 1 6a9 0 fb92 4 1 6af 0 fb96 4 1 6b3 0 fb9a 4 1
   6b1 0 fb9e 2 1 6ba 0 fba0 4 1 6bb 0 fba4 2 1 6c0 0 fba6 4 1 6c1 0 fbaa 4 1 6be 0 fbae 2 1
   6d2 0 fbb0 2 1 6d3 0 fbd3 4 1 6ad 0 fbd7 2 1 6c7 0 fbd9 2 1 6c6 0 fbdb 2 1 6c8 0 fbde 2 1
   6cb 0 fbe0 2 1 6c5 0 fbe2 2 1 6c9 0 fbe4 4 1 6d0 0 fbe8 2 1 649 0 fbfc 4 1 6cc 0 fe13 2 1 3a
   1 fe17 2 1 3016 1 fe33 2 1 5f 0 fe35 2 1 28 1 fe39 2 1 3014 1 fe3b 2 1 3010 1 fe3d 2 1 300a
   1 fe3f 2 1 3008 1 fe41 4 1 300c 1 fe4d 3 1 5f 0 fe59 2 1 28 1 fe5d 2 1 3014 1 fe61 2 1 2a 1
   fe69 2 1 24 1 fe80 2 1 621 1 fe82 2 1 622 1 fe84 2 1 623 1 fe86 2 1 624 1 fe88 2 1 625 1
   fe8a 3 1 626 0 fe8d 2 1 627 0 fe8f 4 1 628 0 fe93 2 1 629 0 fe95 4 1 62a 0 fe99 4 1 62b 0
   fe9d 4 1 62c 0 fea1 4 1 62d 0 fea5 4 1 62e 0 fea9 2 1 62f 0 feab 2 1 630 0 fead 2 1 631 0
   feaf 2 1 632 0 feb1 4 1 633 0 feb5 4 1 634 0 feb9 4 1 635 0 febd 4 1 636 0 fec1 4 1 637 0
   fec5 4 1 638 0 fec9 4 1 639 0 fecd 4 1 63a 0 fed1 4 1 641 0 fed5 4 1 642 0 fed9 4 1 643 0
   fedd 4 1 644 0 fee1 4 1 645 0 fee5 4 1 646 0 fee9 4 1 647 0 feed 2 1 648 0 feef 2 1 649 0
   fef1 4 1 64a 0 ff01 20 1 21 1 ff21 1a 1 61 1 ff3b 24 1 5b 1 ff5f 2 1 2985 1 ff62 2 1 300c 1
   ff75 2 1 30aa 1 ff85 6 1 30ca 1 ff8f 5 1 30de 1 ff96 6 1 30e8 1 ff9e 2 1 3099 1 ffa1 2 1
   1100 1 ffa3 2 2 11aa 2 ffa7 3 1 1103 1 ffaa 6 1 11b0 1 ffb1 3 1 1106 1 ffb5 a 1 1109 1 ffc2
   6 1 1161 1 ffca 6 1 1167 1 ffd2 6 1 116d 1 ffda 3 1 1173 1 ffe0 2 1 a2 1 ffe9 4 1 2190 1
   10400 28 1 10428 1 104b0 24 1 104d8 1 10570 13 2 10597 2 10571 5 2 10598 2 1057d 7 2 105a4 2
   1058d 3 2 105b4 2 10781 2 1 2d0 1 10787 2 2 2a3 2 1078b 2 1 256 1 10799 2 1 2aa 1 107a3 2 1
   276 1 107a8 2 1 27d 1 107b3 2 1 2a1 1 107b6 3 1 1c0 1 10c80 33 1 10cc0 1 118a0 20 1 118c0 1
   16e40 20 1 16e60 1 1d400 1a 1 61 1 1d41a 1a 1 61 1 1d434 1a 1 61 1 1d44e d 2 61 2 1d44f 3 2
   62 2 1d457 9 2 6a 2 1d468 1a 1 61 1 1d482 1a 1 61 1 1d49c 2 2 61 2 1d4a5 2 1 6a 1 1d4a9 4 1
   6e 1 1d4ae 8 1 73 1 1d4b6 4 1 61 1 1d4bb b 2 66 2 1d4be 3 2 69 2 1d4c6 5 2 71 2 1d4d0 1a 1
   61 1 1d4ea 1a 1 61 1 1d504 2 1 61 1 1d507 4 1 64 1 1d50d 8 1 6a 1 1d516 7 1 73 1 1d51e 1a 1
   61 1 1d538 2 1 61 1 1d53b 4 1 64 1 1d540 5 1 69 1 1d54a 7 1 73 1 1d552 1a 1 61 1 1d56c 1a 1
   61 1 1d586 1a 1 61 1 1d5a0 1a 1 61 1 1d5ba 1a 1 61 1 1d5d4 1a 1 61 1 1d5ee 1a 1 61 1 1d608
   1a 1 61 1 1d622 1a 1 61 1 1d63c 1a 1 61 1 1d656 1a 1 61 1 1d670 1a 1 61 1 1d68a 1a 1 61 1
   1d6a8 11 1 3b1 1 1d6ba 7 1 3c3 1 1d6c2 11 1 3b1 1 1d6d3 2 1 3c3 0 1d6d5 6 1 3c4 1 1d6e2 11 1
   3b1 1 1d6f4 7 1 3c3 1 1d6fc 11 1 3b1 1 1d70d 2 1 3c3 0 1d70f 6 1 3c4 1 1d71c 11 1 3b1 1
   1d72e 7 1 3c3 1 1d736 11 1 3b1 1 1d747 2 1 3c3 0 1d749 6 1 3c4 1 1d756 11 1 3b1 1 1d768 7 1
   3c3 1 1d770 11 1 3b1 1 1d781 2 1 3c3 0 1d783 6 1 3c4 1 1d790 11 1 3b1 1 1d7a2 7 1 3c3 1
   1d7aa 11 1 3b1 1 1d7bb 2 1 3c3 0 1d7bd 6 1 3c4 1 1d7ca 2 1 3dd 0 1d7ce a 1 30 1 1d7d8 a 1 30
   1 1d7e2 a 1 30 1 1d7ec a 1 30 1 1d7f6 a 1 30 1 1e030 9 1 430 1 1e039 3 1 43a 1 1e03c b 1 43e
   1 1e048 2 1 44d 1 1e051 9 1 430 1 1e05a 2 1 43a 1 1e05c 2 1 43e 1 1e05f 6 1 443 1 1e065 2 1
   44a 1 1e900 22 1 1e922 1 1ee00 2 1 627 1 1ee0a 4 1 643 1 1ee15 2 1 62a 1 1ee2a 4 1 643 1
   1ee35 2 1 62a 1 1ee4b 2 2 644 2 1ee6a 2 2 643 2 1ee75 2 1 62a 1 1ee80 2 1 627 1 1ee84 2 1
   647 1 1ee8b 3 1 644 1 1ee95 2 1 62a 1 1eeab 3 1 644 1 1eeb5 2 1 62a 1 1f130 1a 1 61 1 1fbf0
   a 1 30 1 2f829 2 1 5305 1 2f830 2 2 537d 2 2f831 2 2 537f 0 2f845 2 1 5584 0 2f86a 2 1 5b3e
   0 2f87b 2 2 21de4 2 2f881 2 1 5de1 1 2f891 2 1 22331 0 2f894 2 1 5f22 0 2f8a7 2 2 614c 0
   2f8f5 2 1 6bba 1 2f92c 2 1 3eb8 0 2f945 2 1 771e 1 2f95d 2 1 25aa7 0 2f9e8 2 1 92d7 1 2f9fe
   2 1 980b 0"

/-- Characters mapped one by one to one character: the character and its target. -/
def single : String :=
  "a0 20 aa 61 b5 3bc b9 31 ba 6f 178 ff 17f 73 181 253 186 254 187 188 18b 18c 18e 1dd 18f 259
   190 25b 191 192 193 260 194 263 196 269 197 268 198 199 19c 26f 19d 272 19f 275 1a6 280 1a7
   1a8 1a9 283 1ac 1ad 1ae 288 1af 1b0 1b7 292 1b8 1b9 1bc 1bd 1f4 1f5 1f6 195 1f7 1bf 220 19e
   23a 2c65 23b 23c 23d 19a 23e 2c66 241 242 243 180 244 289 245 28c 2b1 266 2b3 72 2b4 279 2b5
   27b 2b6 281 2b7 77 2b8 79 2e0 263 2e1 6c 2e2 73 2e3 78 2e4 295 343 313 345 3b9 374 2b9 376
   377 37e 3b 37f 3f3 386 3ac 387 b7 38c 3cc 3cf 3d7 3d0 3b2 3d1 3b8 3d2 3c5 3d3 3cd 3d4 3cb
   3d5 3c6 3d6 3c0 3f0 3ba 3f1 3c1 3f2 3c3 3f4 3b8 3f5 3b5 3f7 3f8 3f9 3c3 3fa 3fb f0c f0b 10c7
   2d27 10cd 2d2d 10fc 10dc 1c80 432 1c81 434 1c82 43e 1c85 442 1c86 44a 1c87 463 1c88 a64b
   1d2c 61 1d2d e6 1d32 1dd 1d3c 6f 1d3d 223 1d3e 70 1d3f 72 1d42 77 1d43 61 1d46 1d02 1d47 62
   1d4a 259 1d4d 67 1d4f 6b 1d51 14b 1d53 254 1d56 70 1d59 1d1d 1d5a 26f 1d5b 76 1d5c 1d25 1d62
   69 1d63 72 1d68 3c1 1d78 43d 1d9b 252 1d9c 63 1d9d 255 1d9e f0 1d9f 25c 1da0 66 1da1 25f
   1da2 261 1da3 265 1da7 1d7b 1da8 29d 1da9 26d 1daa 1d85 1dab 29f 1dac 271 1dad 270 1db2 278
   1db5 1ab 1db8 1d1c 1dbb 7a 1dbf 3b8 1e9b 1e61 1e9e df 1f71 3ac 1f73 3ad 1f75 3ae 1f77 3af
   1f79 3cc 1f7b 3cd 1f7d 3ce 1fba 1f70 1fbb 3ac 1fbe 3b9 1fc9 3ad 1fcb 3ae 1fd3 390 1fda 1f76
   1fdb 3af 1fe3 3b0 1fea 1f7a 1feb 3cd 1fec 1fe5 1fef 60 1ff8 1f78 1ffa 1f7c 2011 2010 202f 20
   205f 20 2070 30 2071 69 207a 2b 207b 2212 207c 3d 207f 6e 208a 2b 208b 2212 208c 3d 2090 61
   2091 65 2092 6f 2093 78 2094 259 2095 68 209a 70 2102 63 2107 25b 210f 127 2115 6e 2124 7a
   2126 3c9 2128 7a 212a 6b 212b e5 2131 66 2133 6d 2134 6f 2139 69 213c 3c0 213f 3c0 2140 2211
   2147 65 2160 69 2164 76 2169 78 216c 6c 216f 6d 2170 69 2174 76 2179 78 217c 6c 217f 6d 24ea
   30 2c60 2c61 2c62 26b 2c63 1d7d 2c64 27d 2c6d 251 2c6e 271 2c6f 250 2c70 252 2c72 2c73 2c75
   2c76 2c7c 6a 2c7d 76 2cf2 2cf3 2d6f 2d61 2e9f 6bcd 2ef3 9f9f 2f00 4e00 2f01 4e28 2f02 4e36
   2f03 4e3f 2f04 4e59 2f05 4e85 2f06 4e8c 2f07 4ea0 2f08 4eba 2f09 513f 2f0a 5165 2f0b 516b
   2f0c 5182 2f0d 5196 2f0e 51ab 2f0f 51e0 2f10 51f5 2f11 5200 2f12 529b 2f13 52f9 2f14 5315
   2f15 531a 2f16 5338 2f17 5341 2f18 535c 2f19 5369 2f1a 5382 2f1b 53b6 2f1c 53c8 2f1d 53e3
   2f1e 56d7 2f1f 571f 2f20 58eb 2f21 5902 2f22 590a 2f23 5915 2f24 5927 2f25 5973 2f26 5b50
   2f27 5b80 2f28 5bf8 2f29 5c0f 2f2a 5c22 2f2b 5c38 2f2c 5c6e 2f2d 5c71 2f2e 5ddb 2f2f 5de5
   2f30 5df1 2f31 5dfe 2f32 5e72 2f33 5e7a 2f34 5e7f 2f35 5ef4 2f36 5efe 2f37 5f0b 2f38 5f13
   2f39 5f50 2f3a 5f61 2f3b 5f73 2f3c 5fc3 2f3d 6208 2f3e 6236 2f3f 624b 2f40 652f 2f41 6534
   2f42 6587 2f43 6597 2f44 65a4 2f45 65b9 2f46 65e0 2f47 65e5 2f48 66f0 2f49 6708 2f4a 6728
   2f4b 6b20 2f4c 6b62 2f4d 6b79 2f4e 6bb3 2f4f 6bcb 2f50 6bd4 2f51 6bdb 2f52 6c0f 2f53 6c14
   2f54 6c34 2f55 706b 2f56 722a 2f57 7236 2f58 723b 2f59 723f 2f5a 7247 2f5b 7259 2f5c 725b
   2f5d 72ac 2f5e 7384 2f5f 7389 2f60 74dc 2f61 74e6 2f62 7518 2f63 751f 2f64 7528 2f65 7530
   2f66 758b 2f67 7592 2f68 7676 2f69 767d 2f6a 76ae 2f6b 76bf 2f6c 76ee 2f6d 77db 2f6e 77e2
   2f6f 77f3 2f70 793a 2f71 79b8 2f72 79be 2f73 7a74 2f74 7acb 2f75 7af9 2f76 7c73 2f77 7cf8
   2f78 7f36 2f79 7f51 2f7a 7f8a 2f7b 7fbd 2f7c 8001 2f7d 800c 2f7e 8012 2f7f 8033 2f80 807f
   2f81 8089 2f82 81e3 2f83 81ea 2f84 81f3 2f85 81fc 2f86 820c 2f87 821b 2f88 821f 2f89 826e
   2f8a 8272 2f8b 8278 2f8c 864d 2f8d 866b 2f8e 8840 2f8f 884c 2f90 8863 2f91 897e 2f92 898b
   2f93 89d2 2f94 8a00 2f95 8c37 2f96 8c46 2f97 8c55 2f98 8c78 2f99 8c9d 2f9a 8d64 2f9b 8d70
   2f9c 8db3 2f9d 8eab 2f9e 8eca 2f9f 8f9b 2fa0 8fb0 2fa1 8fb5 2fa2 9091 2fa3 9149 2fa4 91c6
   2fa5 91cc 2fa6 91d1 2fa7 9577 2fa8 9580 2fa9 961c 2faa 96b6 2fab 96b9 2fac 96e8 2fad 9751
   2fae 975e 2faf 9762 2fb0 9769 2fb1 97cb 2fb2 97ed 2fb3 97f3 2fb4 9801 2fb5 98a8 2fb6 98db
   2fb7 98df 2fb8 9996 2fb9 9999 2fba 99ac 2fbb 9aa8 2fbc 9ad8 2fbd 9adf 2fbe 9b25 2fbf 9b2f
   2fc0 9b32 2fc1 9b3c 2fc2 9b5a 2fc3 9ce5 2fc4 9e75 2fc5 9e7f 2fc6 9ea5 2fc7 9ebb 2fc8 9ec3
   2fc9 9ecd 2fca 9ed1 2fcb 9ef9 2fcc 9efd 2fcd 9f0e 2fce 9f13 2fcf 9f20 2fd0 9f3b 2fd1 9f4a
   2fd2 9f52 2fd3 9f8d 2fd4 9f9c 2fd5 9fa0 3000 20 3002 2e 3036 3012 3038 5341 3134 1102 3136
   11ad 3140 111a 3144 1121 3169 11cc 316a 11ce 316b 11d3 316c 11d7 316d 11d9 316e 111c 316f
   11dd 3170 11df 3173 1120 3176 1127 3177 1129 317d 1132 317e 1136 317f 1140 3180 1147 3181
   114c 3189 1188 318c 1194 318d 119e 318e 11a1 3192 4e00 3193 4e8c 3194 4e09 3195 56db 3196
   4e0a 3197 4e2d 3198 4e0b 3199 7532 319a 4e59 319b 4e19 319c 4e01 319d 5929 319e 5730 319f
   4eba 3244 554f 3245 5e7c 3246 6587 3247 7b8f 3260 1100 3266 1109 326e ac00 326f b098 3270
   b2e4 3271 b77c 3272 b9c8 3273 bc14 3274 c0ac 3275 c544 3276 c790 3277 cc28 3278 ce74 3279
   d0c0 327a d30c 327b d558 327e c6b0 3280 4e00 3281 4e8c 3282 4e09 3283 56db 3284 4e94 3285
   516d 3286 4e03 3287 516b 3288 4e5d 3289 5341 328a 6708 328b 706b 328c 6c34 328d 6728 328e
   91d1 328f 571f 3290 65e5 3291 682a 3292 6709 3293 793e 3294 540d 3295 7279 3296 8ca1 3297
   795d 3298 52b4 3299 79d8 329a 7537 329b 5973 329c 9069 329d 512a 329e 5370 329f 6ce8 32a0
   9805 32a1 4f11 32a2 5199 32a3 6b63 32a4 4e0a 32a5 4e2d 32a6 4e0b 32a7 5de6 32a8 53f3 32a9
   533b 32aa 5b97 32ab 5b66 32ac 76e3 32ad 4f01 32ae 8cc7 32af 5354 32b0 591c 32d0 30a2 32d1
   30a4 32d2 30a6 32d3 30a8 32d6 30ad 32d7 30af 32d8 30b1 32d9 30b3 32da 30b5 32db 30b7 32dc
   30b9 32dd 30bb 32de 30bd 32df 30bf 32e0 30c1 32e1 30c4 32e2 30c6 32e3 30c8 32ea 30d2 32eb
   30d5 32ec 30d8 32ed 30db 32f3 30e4 32f4 30e6 a69c 44a a69d 44c a770 a76f a77d 1d79 a78b a78c
   a78d 265 a7aa 266 a7ab 25c a7ac 261 a7ad 26c a7ae 26a a7b0 29e a7b1 287 a7b2 29d a7b3 ab53
   a7c4 a794 a7c5 282 a7c6 1d8e a7d0 a7d1 a7f2 63 a7f3 66 a7f4 71 a7f5 a7f6 a7f8 127 a7f9 153
   ab5c a727 ab5d ab37 ab5e 26b ab5f ab52 ab69 28d f900 8c48 f901 66f4 f902 8eca f903 8cc8 f904
   6ed1 f905 4e32 f906 53e5 f909 5951 f90a 91d1 f90b 5587 f90c 5948 f90d 61f6 f90e 7669 f90f
   7f85 f910 863f f911 87ba f912 88f8 f913 908f f914 6a02 f915 6d1b f916 70d9 f917 73de f918
   843d f919 916a f91a 99f1 f91b 4e82 f91c 5375 f91d 6b04 f91e 721b f91f 862d f920 9e1e f921
   5d50 f922 6feb f923 85cd f924 8964 f925 62c9 f926 81d8 f927 881f f928 5eca f929 6717 f92a
   6d6a f92b 72fc f92c 90ce f92d 4f86 f92e 51b7 f92f 52de f930 64c4 f931 6ad3 f932 7210 f933
   76e7 f934 8001 f935 8606 f936 865c f937 8def f938 9732 f939 9b6f f93a 9dfa f93b 788c f93c
   797f f93d 7da0 f93e 83c9 f93f 9304 f940 9e7f f941 8ad6 f942 58df f943 5f04 f944 7c60 f945
   807e f946 7262 f947 78ca f948 8cc2 f949 96f7 f94a 58d8 f94b 5c62 f94c 6a13 f94d 6dda f94e
   6f0f f94f 7d2f f950 7e37 f951 964b f952 52d2 f953 808b f954 51dc f955 51cc f956 7a1c f957
   7dbe f958 83f1 f959 9675 f95a 8b80 f95b 62cf f95c 6a02 f95d 8afe f95e 4e39 f95f 5be7 f960
   6012 f961 7387 f962 7570 f963 5317 f964 78fb f965 4fbf f966 5fa9 f967 4e0d f968 6ccc f969
   6578 f96a 7d22 f96b 53c3 f96c 585e f96d 7701 f96e 8449 f96f 8aaa f970 6bba f971 8fb0 f972
   6c88 f973 62fe f974 82e5 f975 63a0 f976 7565 f977 4eae f978 5169 f979 51c9 f97a 6881 f97b
   7ce7 f97c 826f f97d 8ad2 f97e 91cf f97f 52f5 f980 5442 f981 5973 f982 5eec f983 65c5 f984
   6ffe f985 792a f986 95ad f987 9a6a f988 9e97 f989 9ece f98a 529b f98b 66c6 f98c 6b77 f98d
   8f62 f98e 5e74 f98f 6190 f990 6200 f991 649a f992 6f23 f993 7149 f994 7489 f995 79ca f996
   7df4 f997 806f f998 8f26 f999 84ee f99a 9023 f99b 934a f99c 5217 f99d 52a3 f99e 54bd f99f
   70c8 f9a0 88c2 f9a1 8aaa f9a2 5ec9 f9a3 5ff5 f9a4 637b f9a5 6bae f9a6 7c3e f9a7 7375 f9a8
   4ee4 f9a9 56f9 f9aa 5be7 f9ab 5dba f9ac 601c f9ad 73b2 f9ae 7469 f9af 7f9a f9b0 8046 f9b1
   9234 f9b2 96f6 f9b3 9748 f9b4 9818 f9b5 4f8b f9b6 79ae f9b7 91b4 f9b8 96b8 f9b9 60e1 f9ba
   4e86 f9bb 50da f9bc 5bee f9bd 5c3f f9be 6599 f9bf 6a02 f9c0 71ce f9c1 7642 f9c2 84fc f9c3
   907c f9c4 9f8d f9c5 6688 f9c6 962e f9c7 5289 f9c8 677b f9c9 67f3 f9ca 6d41 f9cb 6e9c f9cc
   7409 f9cd 7559 f9ce 786b f9cf 7d10 f9d0 985e f9d1 516d f9d2 622e f9d3 9678 f9d4 502b f9d5
   5d19 f9d6 6dea f9d7 8f2a f9d8 5f8b f9d9 6144 f9da 6817 f9db 7387 f9dc 9686 f9dd 5229 f9de
   540f f9df 5c65 f9e0 6613 f9e1 674e f9e2 68a8 f9e3 6ce5 f9e4 7406 f9e5 75e2 f9e6 7f79 f9e7
   88cf f9e8 88e1 f9e9 91cc f9ea 96e2 f9eb 533f f9ec 6eba f9ed 541d f9ee 71d0 f9ef 7498 f9f0
   85fa f9f1 96a3 f9f2 9c57 f9f3 9e9f f9f4 6797 f9f5 6dcb f9f6 81e8 f9f7 7acb f9f8 7b20 f9f9
   7c92 f9fa 72c0 f9fb 7099 f9fc 8b58 f9fd 4ec0 f9fe 8336 f9ff 523a fa00 5207 fa01 5ea6 fa02
   62d3 fa03 7cd6 fa04 5b85 fa05 6d1e fa06 66b4 fa07 8f3b fa08 884c fa09 964d fa0a 898b fa0b
   5ed3 fa0c 5140 fa0d 55c0 fa10 585a fa12 6674 fa15 51de fa16 732a fa17 76ca fa18 793c fa19
   795e fa1a 7965 fa1b 798f fa1c 9756 fa1d 7cbe fa1e 7fbd fa20 8612 fa22 8af8 fa25 9038 fa26
   90fd fa2a 98ef fa2b 98fc fa2c 9928 fa2d 9db4 fa2e 90de fa2f 96b7 fa30 4fae fa31 50e7 fa32
   514d fa33 52c9 fa34 52e4 fa35 5351 fa36 559d fa37 5606 fa38 5668 fa39 5840 fa3a 58a8 fa3b
   5c64 fa3c 5c6e fa3d 6094 fa3e 6168 fa3f 618e fa40 61f2 fa41 654f fa42 65e2 fa43 6691 fa44
   6885 fa45 6d77 fa46 6e1a fa47 6f22 fa48 716e fa49 722b fa4a 7422 fa4b 7891 fa4c 793e fa4d
   7949 fa4e 7948 fa4f 7950 fa50 7956 fa51 795d fa54 7a40 fa55 7a81 fa56 7bc0 fa57 7df4 fa58
   7e09 fa59 7e41 fa5a 7f72 fa5b 8005 fa5c 81ed fa5f 8457 fa60 8910 fa61 8996 fa62 8b01 fa63
   8b39 fa64 8cd3 fa65 8d08 fa66 8fb6 fa67 9038 fa68 96e3 fa69 97ff fa6a 983b fa6b 6075 fa6c
   242ee fa6d 8218 fa70 4e26 fa71 51b5 fa72 5168 fa73 4f80 fa74 5145 fa75 5180 fa76 52c7 fa77
   52fa fa78 559d fa79 5555 fa7a 5599 fa7b 55e2 fa7c 585a fa7d 58b3 fa7e 5944 fa7f 5954 fa80
   5a62 fa81 5b28 fa82 5ed2 fa83 5ed9 fa84 5f69 fa85 5fad fa86 60d8 fa87 614e fa88 6108 fa89
   618e fa8a 6160 fa8b 61f2 fa8c 6234 fa8d 63c4 fa8e 641c fa8f 6452 fa90 6556 fa91 6674 fa92
   6717 fa93 671b fa94 6756 fa95 6b79 fa96 6bba fa97 6d41 fa98 6edb fa99 6ecb fa9a 6f22 fa9b
   701e fa9c 716e fa9d 77a7 fa9e 7235 fa9f 72af faa0 732a faa1 7471 faa2 7506 faa3 753b faa4
   761d faa5 761f faa6 76ca faa7 76db faa8 76f4 faa9 774a faaa 7740 faab 78cc faac 7ab1 faad
   7bc0 faae 7c7b faaf 7d5b fab0 7df4 fab1 7f3e fab2 8005 fab3 8352 fab4 83ef fab5 8779 fab6
   8941 fab7 8986 fab8 8996 fab9 8abf faba 8af8 fabb 8acb fabc 8b01 fabd 8afe fabe 8aed fabf
   8b39 fac0 8b8a fac1 8d08 fac2 8f38 fac3 9072 fac4 9199 fac5 9276 fac6 967c fac7 96e3 fac8
   9756 fac9 97db faca 97ff facb 980b facc 983b facd 9b12 face 9f9c facf 2284a fad0 22844 fad1
   233d5 fad2 3b9d fad3 4018 fad4 4039 fad5 25249 fad6 25cd0 fad7 27ed3 fad8 9f43 fad9 9f8e
   fb20 5e2 fb21 5d0 fb27 5e8 fb28 5ea fb29 2b fe10 2c fe11 3001 fe15 21 fe16 3f fe31 2014 fe32
   2013 fe37 7b fe38 7d fe47 5b fe48 5d fe50 2c fe51 3001 fe54 3b fe55 3a fe56 3f fe57 21 fe58
   2014 fe5b 7b fe5c 7d fe5f 23 fe60 26 fe63 2d fe64 3c fe65 3e fe66 3d fe68 5c fe6b 40 ff61 2e
   ff64 3001 ff65 30fb ff66 30f2 ff67 30a1 ff68 30a3 ff69 30a5 ff6a 30a7 ff6b 30a9 ff6c 30e3
   ff6d 30e5 ff6e 30e7 ff6f 30c3 ff70 30fc ff71 30a2 ff72 30a4 ff73 30a6 ff74 30a8 ff77 30ad
   ff78 30af ff79 30b1 ff7a 30b3 ff7b 30b5 ff7c 30b7 ff7d 30b9 ff7e 30bb ff7f 30bd ff80 30bf
   ff81 30c1 ff82 30c4 ff83 30c6 ff84 30c8 ff8b 30d2 ff8c 30d5 ff8d 30d8 ff8e 30db ff94 30e4
   ff95 30e6 ff9c 30ef ff9d 30f3 ffa4 1102 ffa6 11ad ffb0 111a ffb4 1121 ffe2 ac ffe4 a6 ffe5
   a5 ffe6 20a9 ffe8 2502 ffed 25a0 ffee 25cb 10595 105bc 10783 e6 10784 299 10785 253 10788
   ab66 1078a 2a4 1078d 1d91 1078e 258 1078f 25e 10790 2a9 10791 264 10792 262 10793 260 10794
   29b 10795 127 10796 29c 10797 267 10798 284 1079b 26c 1079c 1df04 1079d a78e 1079e 26e 1079f
   1df05 107a0 28e 107a1 1df06 107a2 f8 107a5 71 107a6 27a 107a7 1df08 107aa 280 107ab 2a8
   107ac 2a6 107ad ab67 107ae 2a7 107af 288 107b0 2c71 107b2 28f 107b5 298 107b9 1df0a 107ba
   1df1e 1d49f 64 1d4a2 67 1d546 6f 1d6a4 131 1d6a5 237 1d6b9 3b8 1d6c1 2207 1d6db 2202 1d6dc
   3b5 1d6dd 3b8 1d6de 3ba 1d6df 3c6 1d6e0 3c1 1d6e1 3c0 1d6f3 3b8 1d6fb 2207 1d715 2202 1d716
   3b5 1d717 3b8 1d718 3ba 1d719 3c6 1d71a 3c1 1d71b 3c0 1d72d 3b8 1d735 2207 1d74f 2202 1d750
   3b5 1d751 3b8 1d752 3ba 1d753 3c6 1d754 3c1 1d755 3c0 1d767 3b8 1d76f 2207 1d789 2202 1d78a
   3b5 1d78b 3b8 1d78c 3ba 1d78d 3c6 1d78e 3c1 1d78f 3c0 1d7a1 3b8 1d7a9 2207 1d7c3 2202 1d7c4
   3b5 1d7c5 3b8 1d7c6 3ba 1d7c7 3c6 1d7c8 3c1 1d7c9 3c0 1e047 44b 1e04a a689 1e04b 4d9 1e04c
   456 1e04d 458 1e04e 4e9 1e04f 4af 1e050 4cf 1e05e 441 1e067 491 1e068 456 1e069 455 1e06a
   45f 1e06b 4ab 1e06c a651 1e06d 4b1 1ee02 62c 1ee03 62f 1ee05 648 1ee06 632 1ee07 62d 1ee08
   637 1ee09 64a 1ee0e 633 1ee0f 639 1ee10 641 1ee11 635 1ee12 642 1ee13 631 1ee14 634 1ee17
   62e 1ee18 630 1ee19 636 1ee1a 638 1ee1b 63a 1ee1c 66e 1ee1d 6ba 1ee1e 6a1 1ee1f 66f 1ee21
   628 1ee22 62c 1ee24 647 1ee27 62d 1ee29 64a 1ee2e 633 1ee2f 639 1ee30 641 1ee31 635 1ee32
   642 1ee34 634 1ee37 62e 1ee39 636 1ee3b 63a 1ee42 62c 1ee47 62d 1ee49 64a 1ee4e 633 1ee4f
   639 1ee51 635 1ee52 642 1ee54 634 1ee57 62e 1ee59 636 1ee5b 63a 1ee5d 6ba 1ee5f 66f 1ee61
   628 1ee62 62c 1ee64 647 1ee67 62d 1ee68 637 1ee69 64a 1ee6d 646 1ee6e 633 1ee6f 639 1ee70
   641 1ee71 635 1ee72 642 1ee74 634 1ee77 62e 1ee79 636 1ee7a 638 1ee7b 63a 1ee7c 66e 1ee7e
   6a1 1ee82 62c 1ee83 62f 1ee86 632 1ee87 62d 1ee88 637 1ee89 64a 1ee8e 633 1ee8f 639 1ee90
   641 1ee91 635 1ee92 642 1ee93 631 1ee94 634 1ee97 62e 1ee98 630 1ee99 636 1ee9a 638 1ee9b
   63a 1eea1 628 1eea2 62c 1eea3 62f 1eea5 648 1eea6 632 1eea7 62d 1eea8 637 1eea9 64a 1eeae
   633 1eeaf 639 1eeb0 641 1eeb1 635 1eeb2 642 1eeb3 631 1eeb4 634 1eeb7 62e 1eeb8 630 1eeb9
   636 1eeba 638 1eebb 63a 1f12b 63 1f12c 72 1f202 30b5 1f210 624b 1f211 5b57 1f212 53cc 1f213
   30c7 1f214 4e8c 1f215 591a 1f216 89e3 1f217 5929 1f218 4ea4 1f219 6620 1f21a 7121 1f21b 6599
   1f21c 524d 1f21d 5f8c 1f21e 518d 1f21f 65b0 1f220 521d 1f221 7d42 1f222 751f 1f223 8ca9
   1f224 58f0 1f225 5439 1f226 6f14 1f227 6295 1f228 6355 1f229 4e00 1f22a 4e09 1f22b 904a
   1f22c 5de6 1f22d 4e2d 1f22e 53f3 1f22f 6307 1f230 8d70 1f231 6253 1f232 7981 1f233 7a7a
   1f234 5408 1f235 6e80 1f236 6709 1f237 6708 1f238 7533 1f239 5272 1f23a 55b6 1f23b 914d
   1f250 5f97 1f251 53ef 2f800 4e3d 2f801 4e38 2f802 4e41 2f803 20122 2f804 4f60 2f805 4fae
   2f806 4fbb 2f807 5002 2f808 507a 2f809 5099 2f80a 50e7 2f80b 50cf 2f80c 349e 2f80d 2063a
   2f80e 514d 2f80f 5154 2f810 5164 2f811 5177 2f812 2051c 2f813 34b9 2f814 5167 2f815 518d
   2f816 2054b 2f817 5197 2f818 51a4 2f819 4ecc 2f81a 51ac 2f81b 51b5 2f81c 291df 2f81d 51f5
   2f81e 5203 2f81f 34df 2f820 523b 2f821 5246 2f822 5272 2f823 5277 2f824 3515 2f825 52c7
   2f826 52c9 2f827 52e4 2f828 52fa 2f82b 5317 2f82c 5349 2f82d 5351 2f82e 535a 2f82f 5373
   2f834 20a2c 2f835 7070 2f836 53ca 2f837 53df 2f838 20b63 2f839 53eb 2f83a 53f1 2f83b 5406
   2f83c 549e 2f83d 5438 2f83e 5448 2f83f 5468 2f840 54a2 2f841 54f6 2f842 5510 2f843 5553
   2f844 5563 2f847 5599 2f848 55ab 2f849 55b3 2f84a 55c2 2f84b 5716 2f84c 5606 2f84d 5717
   2f84e 5651 2f84f 5674 2f850 5207 2f851 58ee 2f852 57ce 2f853 57f4 2f854 580d 2f855 578b
   2f856 5832 2f857 5831 2f858 58ac 2f859 214e4 2f85a 58f2 2f85b 58f7 2f85c 5906 2f85d 591a
   2f85e 5922 2f85f 5962 2f860 216a8 2f861 216ea 2f862 59ec 2f863 5a1b 2f864 5a27 2f865 59d8
   2f866 5a66 2f867 36ee 2f869 5b08 2f86c 219c8 2f86d 5bc3 2f86e 5bd8 2f86f 5be7 2f870 5bf3
   2f871 21b18 2f872 5bff 2f873 5c06 2f875 5c22 2f876 3781 2f877 5c60 2f878 5c6e 2f879 5cc0
   2f87a 5c8d 2f87c 5d43 2f87e 5d6e 2f87f 5d6b 2f880 5d7c 2f883 382f 2f884 5dfd 2f885 5e28
   2f886 5e3d 2f887 5e69 2f888 3862 2f889 22183 2f88a 387c 2f88b 5eb0 2f88c 5eb3 2f88d 5eb6
   2f88e 5eca 2f88f 2a392 2f890 5efe 2f893 8201 2f896 38c7 2f897 232b8 2f898 261da 2f899 5f62
   2f89a 5f6b 2f89b 38e3 2f89c 5f9a 2f89d 5fcd 2f89e 5fd7 2f89f 5ff9 2f8a0 6081 2f8a1 393a
   2f8a2 391c 2f8a3 6094 2f8a4 226d4 2f8a5 60c7 2f8a6 6148 2f8a8 614e 2f8aa 617a 2f8ab 618e
   2f8ac 61b2 2f8ad 61a4 2f8ae 61af 2f8af 61de 2f8b0 61f2 2f8b1 61f6 2f8b2 6210 2f8b3 621b
   2f8b4 625d 2f8b5 62b1 2f8b6 62d4 2f8b7 6350 2f8b8 22b0c 2f8b9 633d 2f8ba 62fc 2f8bb 6368
   2f8bc 6383 2f8bd 63e4 2f8be 22bf1 2f8bf 6422 2f8c0 63c5 2f8c1 63a9 2f8c2 3a2e 2f8c3 6469
   2f8c4 647e 2f8c5 649d 2f8c6 6477 2f8c7 3a6c 2f8c8 654f 2f8c9 656c 2f8ca 2300a 2f8cb 65e3
   2f8cc 66f8 2f8cd 6649 2f8ce 3b19 2f8cf 6691 2f8d0 3b08 2f8d1 3ae4 2f8d2 5192 2f8d3 5195
   2f8d4 6700 2f8d5 669c 2f8d6 80ad 2f8d7 43d9 2f8d8 6717 2f8d9 671b 2f8da 6721 2f8db 675e
   2f8dc 6753 2f8dd 233c3 2f8de 3b49 2f8df 67fa 2f8e0 6785 2f8e1 6852 2f8e2 6885 2f8e3 2346d
   2f8e4 688e 2f8e5 681f 2f8e6 6914 2f8e7 3b9d 2f8e8 6942 2f8e9 69a3 2f8ea 69ea 2f8eb 6aa8
   2f8ec 236a3 2f8ed 6adb 2f8ee 3c18 2f8ef 6b21 2f8f0 238a7 2f8f1 6b54 2f8f2 3c4e 2f8f3 6b72
   2f8f4 6b9f 2f8f7 23a8d 2f8f8 21d0b 2f8f9 23afa 2f8fa 6c4e 2f8fb 23cbc 2f8fc 6cbf 2f8fd 6ccd
   2f8fe 6c67 2f8ff 6d16 2f900 6d3e 2f901 6d77 2f902 6d41 2f903 6d69 2f904 6d78 2f905 6d85
   2f906 23d1e 2f907 6d34 2f908 6e2f 2f909 6e6e 2f90a 3d33 2f90b 6ecb 2f90c 6ec7 2f90d 23ed1
   2f90e 6df9 2f90f 6f6e 2f910 23f5e 2f911 23f8e 2f912 6fc6 2f913 7039 2f914 701e 2f915 701b
   2f916 3d96 2f917 704a 2f918 707d 2f919 7077 2f91a 70ad 2f91b 20525 2f91c 7145 2f91d 24263
   2f91e 719c 2f920 7228 2f921 7235 2f922 7250 2f923 24608 2f924 7280 2f925 7295 2f926 24735
   2f927 24814 2f928 737a 2f929 738b 2f92a 3eac 2f92b 73a5 2f92e 7447 2f92f 745c 2f930 7471
   2f931 7485 2f932 74ca 2f933 3f1b 2f934 7524 2f935 24c36 2f936 753e 2f937 24c92 2f938 7570
   2f939 2219f 2f93a 7610 2f93b 24fa1 2f93c 24fb8 2f93d 25044 2f93e 3ffc 2f93f 4008 2f940 76f4
   2f941 250f3 2f942 250f2 2f943 25119 2f944 25133 2f947 771f 2f948 774a 2f949 4039 2f94a 778b
   2f94b 4046 2f94c 4096 2f94d 2541d 2f94e 784e 2f94f 788c 2f950 78cc 2f951 40e3 2f952 25626
   2f953 7956 2f954 2569a 2f955 256c5 2f956 798f 2f957 79eb 2f958 412f 2f959 7a40 2f95a 7a4a
   2f95b 7a4f 2f95c 2597c 2f960 4202 2f961 25bab 2f962 7bc6 2f963 7bc9 2f964 4227 2f965 25c80
   2f966 7cd2 2f967 42a0 2f968 7ce8 2f969 7ce3 2f96a 7d00 2f96b 25f86 2f96c 7d63 2f96d 4301
   2f96e 7dc7 2f96f 7e02 2f970 7e45 2f971 4334 2f972 26228 2f973 26247 2f974 4359 2f975 262d9
   2f976 7f7a 2f977 2633e 2f978 7f95 2f979 7ffa 2f97a 8005 2f97b 264da 2f97c 26523 2f97d 8060
   2f97e 265a8 2f97f 8070 2f980 2335f 2f981 43d5 2f982 80b2 2f983 8103 2f984 440b 2f985 813e
   2f986 5ab5 2f987 267a7 2f988 267b5 2f989 23393 2f98a 2339c 2f98b 8201 2f98c 8204 2f98d 8f9e
   2f98e 446b 2f98f 8291 2f990 828b 2f991 829d 2f992 52b3 2f993 82b1 2f994 82b3 2f995 82bd
   2f996 82e6 2f997 26b3c 2f998 82e5 2f999 831d 2f99a 8363 2f99b 83ad 2f99c 8323 2f99d 83bd
   2f99e 83e7 2f99f 8457 2f9a0 8353 2f9a1 83ca 2f9a2 83cc 2f9a3 83dc 2f9a4 26c36 2f9a5 26d6b
   2f9a6 26cd5 2f9a7 452b 2f9a8 84f1 2f9a9 84f3 2f9aa 8516 2f9ab 273ca 2f9ac 8564 2f9ad 26f2c
   2f9ae 455d 2f9af 4561 2f9b0 26fb1 2f9b1 270d2 2f9b2 456b 2f9b3 8650 2f9b4 865c 2f9b5 8667
   2f9b6 8669 2f9b7 86a9 2f9b8 8688 2f9b9 870e 2f9ba 86e2 2f9bb 8779 2f9bc 8728 2f9bd 876b
   2f9be 8786 2f9c0 87e1 2f9c1 8801 2f9c2 45f9 2f9c3 8860 2f9c4 8863 2f9c5 27667 2f9c6 88d7
   2f9c7 88de 2f9c8 4635 2f9c9 88fa 2f9ca 34bb 2f9cb 278ae 2f9cc 27966 2f9cd 46be 2f9ce 46c7
   2f9cf 8aa0 2f9d0 8aed 2f9d1 8b8a 2f9d2 8c55 2f9d3 27ca8 2f9d4 8cab 2f9d5 8cc1 2f9d6 8d1b
   2f9d7 8d77 2f9d8 27f2f 2f9d9 20804 2f9da 8dcb 2f9db 8dbc 2f9dc 8df0 2f9dd 208de 2f9de 8ed4
   2f9df 8f38 2f9e0 285d2 2f9e1 285ed 2f9e2 9094 2f9e3 90f1 2f9e4 9111 2f9e5 2872e 2f9e6 911b
   2f9e7 9238 2f9ea 927c 2f9eb 93f9 2f9ec 9415 2f9ed 28bfa 2f9ee 958b 2f9ef 4995 2f9f0 95b7
   2f9f1 28d77 2f9f2 49e6 2f9f3 96c3 2f9f4 5db2 2f9f5 9723 2f9f6 29145 2f9f7 2921a 2f9f8 4a6e
   2f9f9 4a76 2f9fa 97e0 2f9fb 2940a 2f9fc 4ab2 2f9fd 29496 2fa00 9829 2fa01 295b6 2fa02 98e2
   2fa03 4b33 2fa04 9929 2fa05 99a7 2fa06 99c2 2fa07 99fe 2fa08 4bce 2fa09 29b30 2fa0a 9b12
   2fa0b 9c40 2fa0c 9cfd 2fa0d 4cce 2fa0e 4ced 2fa0f 9d67 2fa10 2a0ce 2fa11 4cf8 2fa12 2a105
   2fa13 2a20e 2fa14 2a291 2fa15 9ebb 2fa16 4d56 2fa17 9ef9 2fa18 9efe 2fa19 9f05 2fa1a 9f0f
   2fa1b 9f16 2fa1c 9f3b 2fa1d 2a600"

/-- Characters mapped to none or to several: the character, how many targets, and the targets. -/
def several : String :=
  "a8 2 20 308 ad 0 af 2 20 304 b4 2 20 301 b8 2 20 327 bc 3 31 2044 34 bd 3 31 2044 32 be 3 33
   2044 34 130 2 69 307 132 2 69 6a 133 2 69 6a 13f 2 6c b7 140 2 6c b7 149 2 2bc 6e 1c4 2 64
   17e 1c5 2 64 17e 1c6 2 64 17e 1c7 2 6c 6a 1c8 2 6c 6a 1c9 2 6c 6a 1ca 2 6e 6a 1cb 2 6e 6a
   1cc 2 6e 6a 1f1 2 64 7a 1f2 2 64 7a 1f3 2 64 7a 2d8 2 20 306 2d9 2 20 307 2da 2 20 30a 2db 2
   20 328 2dc 2 20 303 2dd 2 20 30b 344 2 308 301 34f 0 37a 2 20 3b9 384 2 20 301 385 3 20 308
   301 587 2 565 582 675 2 627 674 676 2 648 674 677 2 6c7 674 678 2 64a 674 958 2 915 93c 959
   2 916 93c 95a 2 917 93c 95b 2 91c 93c 95c 2 921 93c 95d 2 922 93c 95e 2 92b 93c 95f 2 92f
   93c 9dc 2 9a1 9bc 9dd 2 9a2 9bc 9df 2 9af 9bc a33 2 a32 a3c a36 2 a38 a3c a59 2 a16 a3c a5a
   2 a17 a3c a5b 2 a1c a3c a5e 2 a2b a3c b5c 2 b21 b3c b5d 2 b22 b3c e33 2 e4d e32 eb3 2 ecd
   eb2 edc 2 eab e99 edd 2 eab ea1 f43 2 f42 fb7 f4d 2 f4c fb7 f52 2 f51 fb7 f57 2 f56 fb7 f5c
   2 f5b fb7 f69 2 f40 fb5 f73 2 f71 f72 f75 2 f71 f74 f76 2 fb2 f80 f77 3 fb2 f71 f80 f78 2
   fb3 f80 f79 3 fb3 f71 f80 f81 2 f71 f80 f93 2 f92 fb7 f9d 2 f9c fb7 fa2 2 fa1 fb7 fa7 2 fa6
   fb7 fac 2 fab fb7 fb9 2 f90 fb5 180b 0 180c 0 180d 0 180f 0 1e9a 2 61 2be 1f80 2 1f00 3b9
   1f81 2 1f01 3b9 1f82 2 1f02 3b9 1f83 2 1f03 3b9 1f84 2 1f04 3b9 1f85 2 1f05 3b9 1f86 2 1f06
   3b9 1f87 2 1f07 3b9 1f88 2 1f00 3b9 1f89 2 1f01 3b9 1f8a 2 1f02 3b9 1f8b 2 1f03 3b9 1f8c 2
   1f04 3b9 1f8d 2 1f05 3b9 1f8e 2 1f06 3b9 1f8f 2 1f07 3b9 1f90 2 1f20 3b9 1f91 2 1f21 3b9
   1f92 2 1f22 3b9 1f93 2 1f23 3b9 1f94 2 1f24 3b9 1f95 2 1f25 3b9 1f96 2 1f26 3b9 1f97 2 1f27
   3b9 1f98 2 1f20 3b9 1f99 2 1f21 3b9 1f9a 2 1f22 3b9 1f9b 2 1f23 3b9 1f9c 2 1f24 3b9 1f9d 2
   1f25 3b9 1f9e 2 1f26 3b9 1f9f 2 1f27 3b9 1fa0 2 1f60 3b9 1fa1 2 1f61 3b9 1fa2 2 1f62 3b9
   1fa3 2 1f63 3b9 1fa4 2 1f64 3b9 1fa5 2 1f65 3b9 1fa6 2 1f66 3b9 1fa7 2 1f67 3b9 1fa8 2 1f60
   3b9 1fa9 2 1f61 3b9 1faa 2 1f62 3b9 1fab 2 1f63 3b9 1fac 2 1f64 3b9 1fad 2 1f65 3b9 1fae 2
   1f66 3b9 1faf 2 1f67 3b9 1fb2 2 1f70 3b9 1fb3 2 3b1 3b9 1fb4 2 3ac 3b9 1fb7 2 1fb6 3b9 1fbc
   2 3b1 3b9 1fbd 2 20 313 1fbf 2 20 313 1fc0 2 20 342 1fc1 3 20 308 342 1fc2 2 1f74 3b9 1fc3 2
   3b7 3b9 1fc4 2 3ae 3b9 1fc7 2 1fc6 3b9 1fcc 2 3b7 3b9 1fcd 3 20 313 300 1fce 3 20 313 301
   1fcf 3 20 313 342 1fdd 3 20 314 300 1fde 3 20 314 301 1fdf 3 20 314 342 1fed 3 20 308 300
   1fee 3 20 308 301 1ff2 2 1f7c 3b9 1ff3 2 3c9 3b9 1ff4 2 3ce 3b9 1ff7 2 1ff6 3b9 1ffc 2 3c9
   3b9 1ffd 2 20 301 1ffe 2 20 314 200b 0 2017 2 20 333 2033 2 2032 2032 2034 3 2032 2032 2032
   2036 2 2035 2035 2037 3 2035 2035 2035 203c 2 21 21 203e 2 20 305 2047 2 3f 3f 2048 2 3f 21
   2049 2 21 3f 2057 4 2032 2032 2032 2032 2060 0 2064 0 20a8 2 72 73 2100 3 61 2f 63 2101 3 61
   2f 73 2103 2 b0 63 2105 3 63 2f 6f 2106 3 63 2f 75 2109 2 b0 66 2116 2 6e 6f 2120 2 73 6d
   2121 3 74 65 6c 2122 2 74 6d 213b 3 66 61 78 2150 3 31 2044 37 2151 3 31 2044 39 2152 4 31
   2044 31 30 2153 3 31 2044 33 2154 3 32 2044 33 2155 3 31 2044 35 2156 3 32 2044 35 2157 3 33
   2044 35 2158 3 34 2044 35 2159 3 31 2044 36 215a 3 35 2044 36 215b 3 31 2044 38 215c 3 33
   2044 38 215d 3 35 2044 38 215e 3 37 2044 38 215f 2 31 2044 2161 2 69 69 2162 3 69 69 69 2163
   2 69 76 2165 2 76 69 2166 3 76 69 69 2167 4 76 69 69 69 2168 2 69 78 216a 2 78 69 216b 3 78
   69 69 2171 2 69 69 2172 3 69 69 69 2173 2 69 76 2175 2 76 69 2176 3 76 69 69 2177 4 76 69 69
   69 2178 2 69 78 217a 2 78 69 217b 3 78 69 69 2189 3 30 2044 33 222c 2 222b 222b 222d 3 222b
   222b 222b 222f 2 222e 222e 2230 3 222e 222e 222e 2469 2 31 30 246a 2 31 31 246b 2 31 32 246c
   2 31 33 246d 2 31 34 246e 2 31 35 246f 2 31 36 2470 2 31 37 2471 2 31 38 2472 2 31 39 2473 2
   32 30 2474 3 28 31 29 2475 3 28 32 29 2476 3 28 33 29 2477 3 28 34 29 2478 3 28 35 29 2479 3
   28 36 29 247a 3 28 37 29 247b 3 28 38 29 247c 3 28 39 29 247d 4 28 31 30 29 247e 4 28 31 31
   29 247f 4 28 31 32 29 2480 4 28 31 33 29 2481 4 28 31 34 29 2482 4 28 31 35 29 2483 4 28 31
   36 29 2484 4 28 31 37 29 2485 4 28 31 38 29 2486 4 28 31 39 29 2487 4 28 32 30 29 249c 3 28
   61 29 249d 3 28 62 29 249e 3 28 63 29 249f 3 28 64 29 24a0 3 28 65 29 24a1 3 28 66 29 24a2 3
   28 67 29 24a3 3 28 68 29 24a4 3 28 69 29 24a5 3 28 6a 29 24a6 3 28 6b 29 24a7 3 28 6c 29
   24a8 3 28 6d 29 24a9 3 28 6e 29 24aa 3 28 6f 29 24ab 3 28 70 29 24ac 3 28 71 29 24ad 3 28 72
   29 24ae 3 28 73 29 24af 3 28 74 29 24b0 3 28 75 29 24b1 3 28 76 29 24b2 3 28 77 29 24b3 3 28
   78 29 24b4 3 28 79 29 24b5 3 28 7a 29 2a0c 4 222b 222b 222b 222b 2a74 3 3a 3a 3d 2a75 2 3d
   3d 2a76 3 3d 3d 3d 2adc 2 2add 338 309b 2 20 3099 309c 2 20 309a 309f 2 3088 308a 30ff 2
   30b3 30c8 3200 3 28 1100 29 3201 3 28 1102 29 3202 3 28 1103 29 3203 3 28 1105 29 3204 3 28
   1106 29 3205 3 28 1107 29 3206 3 28 1109 29 3207 3 28 110b 29 3208 3 28 110c 29 3209 3 28
   110e 29 320a 3 28 110f 29 320b 3 28 1110 29 320c 3 28 1111 29 320d 3 28 1112 29 320e 3 28
   ac00 29 320f 3 28 b098 29 3210 3 28 b2e4 29 3211 3 28 b77c 29 3212 3 28 b9c8 29 3213 3 28
   bc14 29 3214 3 28 c0ac 29 3215 3 28 c544 29 3216 3 28 c790 29 3217 3 28 cc28 29 3218 3 28
   ce74 29 3219 3 28 d0c0 29 321a 3 28 d30c 29 321b 3 28 d558 29 321c 3 28 c8fc 29 321d 4 28
   c624 c804 29 321e 4 28 c624 d6c4 29 3220 3 28 4e00 29 3221 3 28 4e8c 29 3222 3 28 4e09 29
   3223 3 28 56db 29 3224 3 28 4e94 29 3225 3 28 516d 29 3226 3 28 4e03 29 3227 3 28 516b 29
   3228 3 28 4e5d 29 3229 3 28 5341 29 322a 3 28 6708 29 322b 3 28 706b 29 322c 3 28 6c34 29
   322d 3 28 6728 29 322e 3 28 91d1 29 322f 3 28 571f 29 3230 3 28 65e5 29 3231 3 28 682a 29
   3232 3 28 6709 29 3233 3 28 793e 29 3234 3 28 540d 29 3235 3 28 7279 29 3236 3 28 8ca1 29
   3237 3 28 795d 29 3238 3 28 52b4 29 3239 3 28 4ee3 29 323a 3 28 547c 29 323b 3 28 5b66 29
   323c 3 28 76e3 29 323d 3 28 4f01 29 323e 3 28 8cc7 29 323f 3 28 5354 29 3240 3 28 796d 29
   3241 3 28 4f11 29 3242 3 28 81ea 29 3243 3 28 81f3 29 3250 3 70 74 65 3251 2 32 31 3252 2 32
   32 3253 2 32 33 3254 2 32 34 3255 2 32 35 3256 2 32 36 3257 2 32 37 3258 2 32 38 3259 2 32
   39 325a 2 33 30 325b 2 33 31 325c 2 33 32 325d 2 33 33 325e 2 33 34 325f 2 33 35 327c 2 cc38
   ace0 327d 2 c8fc c758 32b1 2 33 36 32b2 2 33 37 32b3 2 33 38 32b4 2 33 39 32b5 2 34 30 32b6
   2 34 31 32b7 2 34 32 32b8 2 34 33 32b9 2 34 34 32ba 2 34 35 32bb 2 34 36 32bc 2 34 37 32bd 2
   34 38 32be 2 34 39 32bf 2 35 30 32c0 2 31 6708 32c1 2 32 6708 32c2 2 33 6708 32c3 2 34 6708
   32c4 2 35 6708 32c5 2 36 6708 32c6 2 37 6708 32c7 2 38 6708 32c8 2 39 6708 32c9 3 31 30 6708
   32ca 3 31 31 6708 32cb 3 31 32 6708 32cc 2 68 67 32cd 3 65 72 67 32ce 2 65 76 32cf 3 6c 74
   64 32ff 2 4ee4 548c 3300 4 30a2 30d1 30fc 30c8 3301 4 30a2 30eb 30d5 30a1 3302 4 30a2 30f3
   30da 30a2 3303 3 30a2 30fc 30eb 3304 4 30a4 30cb 30f3 30b0 3305 3 30a4 30f3 30c1 3306 3 30a6
   30a9 30f3 3307 5 30a8 30b9 30af 30fc 30c9 3308 4 30a8 30fc 30ab 30fc 3309 3 30aa 30f3 30b9
   330a 3 30aa 30fc 30e0 330b 3 30ab 30a4 30ea 330c 4 30ab 30e9 30c3 30c8 330d 4 30ab 30ed 30ea
   30fc 330e 3 30ac 30ed 30f3 330f 3 30ac 30f3 30de 3310 2 30ae 30ac 3311 3 30ae 30cb 30fc 3312
   4 30ad 30e5 30ea 30fc 3313 4 30ae 30eb 30c0 30fc 3314 2 30ad 30ed 3315 5 30ad 30ed 30b0 30e9
   30e0 3316 6 30ad 30ed 30e1 30fc 30c8 30eb 3317 5 30ad 30ed 30ef 30c3 30c8 3318 3 30b0 30e9
   30e0 3319 5 30b0 30e9 30e0 30c8 30f3 331a 5 30af 30eb 30bc 30a4 30ed 331b 4 30af 30ed 30fc
   30cd 331c 3 30b1 30fc 30b9 331d 3 30b3 30eb 30ca 331e 3 30b3 30fc 30dd 331f 4 30b5 30a4 30af
   30eb 3320 5 30b5 30f3 30c1 30fc 30e0 3321 4 30b7 30ea 30f3 30b0 3322 3 30bb 30f3 30c1 3323 3
   30bb 30f3 30c8 3324 3 30c0 30fc 30b9 3325 2 30c7 30b7 3326 2 30c9 30eb 3327 2 30c8 30f3 3328
   2 30ca 30ce 3329 3 30ce 30c3 30c8 332a 3 30cf 30a4 30c4 332b 5 30d1 30fc 30bb 30f3 30c8 332c
   3 30d1 30fc 30c4 332d 4 30d0 30fc 30ec 30eb 332e 5 30d4 30a2 30b9 30c8 30eb 332f 3 30d4 30af
   30eb 3330 2 30d4 30b3 3331 2 30d3 30eb 3332 5 30d5 30a1 30e9 30c3 30c9 3333 4 30d5 30a3 30fc
   30c8 3334 5 30d6 30c3 30b7 30a7 30eb 3335 3 30d5 30e9 30f3 3336 5 30d8 30af 30bf 30fc 30eb
   3337 2 30da 30bd 3338 3 30da 30cb 30d2 3339 3 30d8 30eb 30c4 333a 3 30da 30f3 30b9 333b 3
   30da 30fc 30b8 333c 3 30d9 30fc 30bf 333d 4 30dd 30a4 30f3 30c8 333e 3 30dc 30eb 30c8 333f 2
   30db 30f3 3340 3 30dd 30f3 30c9 3341 3 30db 30fc 30eb 3342 3 30db 30fc 30f3 3343 4 30de 30a4
   30af 30ed 3344 3 30de 30a4 30eb 3345 3 30de 30c3 30cf 3346 3 30de 30eb 30af 3347 5 30de 30f3
   30b7 30e7 30f3 3348 4 30df 30af 30ed 30f3 3349 2 30df 30ea 334a 5 30df 30ea 30d0 30fc 30eb
   334b 2 30e1 30ac 334c 4 30e1 30ac 30c8 30f3 334d 4 30e1 30fc 30c8 30eb 334e 3 30e4 30fc 30c9
   334f 3 30e4 30fc 30eb 3350 3 30e6 30a2 30f3 3351 4 30ea 30c3 30c8 30eb 3352 2 30ea 30e9 3353
   3 30eb 30d4 30fc 3354 4 30eb 30fc 30d6 30eb 3355 2 30ec 30e0 3356 5 30ec 30f3 30c8 30b2 30f3
   3357 3 30ef 30c3 30c8 3358 2 30 70b9 3359 2 31 70b9 335a 2 32 70b9 335b 2 33 70b9 335c 2 34
   70b9 335d 2 35 70b9 335e 2 36 70b9 335f 2 37 70b9 3360 2 38 70b9 3361 2 39 70b9 3362 3 31 30
   70b9 3363 3 31 31 70b9 3364 3 31 32 70b9 3365 3 31 33 70b9 3366 3 31 34 70b9 3367 3 31 35
   70b9 3368 3 31 36 70b9 3369 3 31 37 70b9 336a 3 31 38 70b9 336b 3 31 39 70b9 336c 3 32 30
   70b9 336d 3 32 31 70b9 336e 3 32 32 70b9 336f 3 32 33 70b9 3370 3 32 34 70b9 3371 3 68 70 61
   3372 2 64 61 3373 2 61 75 3374 3 62 61 72 3375 2 6f 76 3376 2 70 63 3377 2 64 6d 3378 3 64
   6d 32 3379 3 64 6d 33 337a 2 69 75 337b 2 5e73 6210 337c 2 662d 548c 337d 2 5927 6b63 337e 2
   660e 6cbb 337f 4 682a 5f0f 4f1a 793e 3380 2 70 61 3381 2 6e 61 3382 2 3bc 61 3383 2 6d 61
   3384 2 6b 61 3385 2 6b 62 3386 2 6d 62 3387 2 67 62 3388 3 63 61 6c 3389 4 6b 63 61 6c 338a
   2 70 66 338b 2 6e 66 338c 2 3bc 66 338d 2 3bc 67 338e 2 6d 67 338f 2 6b 67 3390 2 68 7a 3391
   3 6b 68 7a 3392 3 6d 68 7a 3393 3 67 68 7a 3394 3 74 68 7a 3395 2 3bc 6c 3396 2 6d 6c 3397 2
   64 6c 3398 2 6b 6c 3399 2 66 6d 339a 2 6e 6d 339b 2 3bc 6d 339c 2 6d 6d 339d 2 63 6d 339e 2
   6b 6d 339f 3 6d 6d 32 33a0 3 63 6d 32 33a1 2 6d 32 33a2 3 6b 6d 32 33a3 3 6d 6d 33 33a4 3 63
   6d 33 33a5 2 6d 33 33a6 3 6b 6d 33 33a7 3 6d 2215 73 33a8 4 6d 2215 73 32 33a9 2 70 61 33aa
   3 6b 70 61 33ab 3 6d 70 61 33ac 3 67 70 61 33ad 3 72 61 64 33ae 5 72 61 64 2215 73 33af 6 72
   61 64 2215 73 32 33b0 2 70 73 33b1 2 6e 73 33b2 2 3bc 73 33b3 2 6d 73 33b4 2 70 76 33b5 2 6e
   76 33b6 2 3bc 76 33b7 2 6d 76 33b8 2 6b 76 33b9 2 6d 76 33ba 2 70 77 33bb 2 6e 77 33bc 2 3bc
   77 33bd 2 6d 77 33be 2 6b 77 33bf 2 6d 77 33c0 2 6b 3c9 33c1 2 6d 3c9 33c3 2 62 71 33c4 2 63
   63 33c5 2 63 64 33c6 4 63 2215 6b 67 33c8 2 64 62 33c9 2 67 79 33ca 2 68 61 33cb 2 68 70
   33cc 2 69 6e 33cd 2 6b 6b 33ce 2 6b 6d 33cf 2 6b 74 33d0 2 6c 6d 33d1 2 6c 6e 33d2 3 6c 6f
   67 33d3 2 6c 78 33d4 2 6d 62 33d5 3 6d 69 6c 33d6 3 6d 6f 6c 33d7 2 70 68 33d9 3 70 70 6d
   33da 2 70 72 33db 2 73 72 33dc 2 73 76 33dd 2 77 62 33de 3 76 2215 6d 33df 3 61 2215 6d 33e0
   2 31 65e5 33e1 2 32 65e5 33e2 2 33 65e5 33e3 2 34 65e5 33e4 2 35 65e5 33e5 2 36 65e5 33e6 2
   37 65e5 33e7 2 38 65e5 33e8 2 39 65e5 33e9 3 31 30 65e5 33ea 3 31 31 65e5 33eb 3 31 32 65e5
   33ec 3 31 33 65e5 33ed 3 31 34 65e5 33ee 3 31 35 65e5 33ef 3 31 36 65e5 33f0 3 31 37 65e5
   33f1 3 31 38 65e5 33f2 3 31 39 65e5 33f3 3 32 30 65e5 33f4 3 32 31 65e5 33f5 3 32 32 65e5
   33f6 3 32 33 65e5 33f7 3 32 34 65e5 33f8 3 32 35 65e5 33f9 3 32 36 65e5 33fa 3 32 37 65e5
   33fb 3 32 38 65e5 33fc 3 32 39 65e5 33fd 3 33 30 65e5 33fe 3 33 31 65e5 33ff 3 67 61 6c fb00
   2 66 66 fb01 2 66 69 fb02 2 66 6c fb03 3 66 66 69 fb04 3 66 66 6c fb05 2 73 74 fb06 2 73 74
   fb13 2 574 576 fb14 2 574 565 fb15 2 574 56b fb16 2 57e 576 fb17 2 574 56d fb1d 2 5d9 5b4
   fb1f 2 5f2 5b7 fb2a 2 5e9 5c1 fb2b 2 5e9 5c2 fb2c 3 5e9 5bc 5c1 fb2d 3 5e9 5bc 5c2 fb2e 2
   5d0 5b7 fb2f 2 5d0 5b8 fb30 2 5d0 5bc fb31 2 5d1 5bc fb32 2 5d2 5bc fb33 2 5d3 5bc fb34 2
   5d4 5bc fb35 2 5d5 5bc fb36 2 5d6 5bc fb38 2 5d8 5bc fb39 2 5d9 5bc fb3a 2 5da 5bc fb3b 2
   5db 5bc fb3c 2 5dc 5bc fb3e 2 5de 5bc fb40 2 5e0 5bc fb41 2 5e1 5bc fb43 2 5e3 5bc fb44 2
   5e4 5bc fb46 2 5e6 5bc fb47 2 5e7 5bc fb48 2 5e8 5bc fb49 2 5e9 5bc fb4a 2 5ea 5bc fb4b 2
   5d5 5b9 fb4c 2 5d1 5bf fb4d 2 5db 5bf fb4e 2 5e4 5bf fb4f 2 5d0 5dc fbdd 2 6c7 674 fbea 2
   626 627 fbeb 2 626 627 fbec 2 626 6d5 fbed 2 626 6d5 fbee 2 626 648 fbef 2 626 648 fbf0 2
   626 6c7 fbf1 2 626 6c7 fbf2 2 626 6c6 fbf3 2 626 6c6 fbf4 2 626 6c8 fbf5 2 626 6c8 fbf6 2
   626 6d0 fbf7 2 626 6d0 fbf8 2 626 6d0 fbf9 2 626 649 fbfa 2 626 649 fbfb 2 626 649 fc00 2
   626 62c fc01 2 626 62d fc02 2 626 645 fc03 2 626 649 fc04 2 626 64a fc05 2 628 62c fc06 2
   628 62d fc07 2 628 62e fc08 2 628 645 fc09 2 628 649 fc0a 2 628 64a fc0b 2 62a 62c fc0c 2
   62a 62d fc0d 2 62a 62e fc0e 2 62a 645 fc0f 2 62a 649 fc10 2 62a 64a fc11 2 62b 62c fc12 2
   62b 645 fc13 2 62b 649 fc14 2 62b 64a fc15 2 62c 62d fc16 2 62c 645 fc17 2 62d 62c fc18 2
   62d 645 fc19 2 62e 62c fc1a 2 62e 62d fc1b 2 62e 645 fc1c 2 633 62c fc1d 2 633 62d fc1e 2
   633 62e fc1f 2 633 645 fc20 2 635 62d fc21 2 635 645 fc22 2 636 62c fc23 2 636 62d fc24 2
   636 62e fc25 2 636 645 fc26 2 637 62d fc27 2 637 645 fc28 2 638 645 fc29 2 639 62c fc2a 2
   639 645 fc2b 2 63a 62c fc2c 2 63a 645 fc2d 2 641 62c fc2e 2 641 62d fc2f 2 641 62e fc30 2
   641 645 fc31 2 641 649 fc32 2 641 64a fc33 2 642 62d fc34 2 642 645 fc35 2 642 649 fc36 2
   642 64a fc37 2 643 627 fc38 2 643 62c fc39 2 643 62d fc3a 2 643 62e fc3b 2 643 644 fc3c 2
   643 645 fc3d 2 643 649 fc3e 2 643 64a fc3f 2 644 62c fc40 2 644 62d fc41 2 644 62e fc42 2
   644 645 fc43 2 644 649 fc44 2 644 64a fc45 2 645 62c fc46 2 645 62d fc47 2 645 62e fc48 2
   645 645 fc49 2 645 649 fc4a 2 645 64a fc4b 2 646 62c fc4c 2 646 62d fc4d 2 646 62e fc4e 2
   646 645 fc4f 2 646 649 fc50 2 646 64a fc51 2 647 62c fc52 2 647 645 fc53 2 647 649 fc54 2
   647 64a fc55 2 64a 62c fc56 2 64a 62d fc57 2 64a 62e fc58 2 64a 645 fc59 2 64a 649 fc5a 2
   64a 64a fc5b 2 630 670 fc5c 2 631 670 fc5d 2 649 670 fc5e 3 20 64c 651 fc5f 3 20 64d 651
   fc60 3 20 64e 651 fc61 3 20 64f 651 fc62 3 20 650 651 fc63 3 20 651 670 fc64 2 626 631 fc65
   2 626 632 fc66 2 626 645 fc67 2 626 646 fc68 2 626 649 fc69 2 626 64a fc6a 2 628 631 fc6b 2
   628 632 fc6c 2 628 645 fc6d 2 628 646 fc6e 2 628 649 fc6f 2 628 64a fc70 2 62a 631 fc71 2
   62a 632 fc72 2 62a 645 fc73 2 62a 646 fc74 2 62a 649 fc75 2 62a 64a fc76 2 62b 631 fc77 2
   62b 632 fc78 2 62b 645 fc79 2 62b 646 fc7a 2 62b 649 fc7b 2 62b 64a fc7c 2 641 649 fc7d 2
   641 64a fc7e 2 642 649 fc7f 2 642 64a fc80 2 643 627 fc81 2 643 644 fc82 2 643 645 fc83 2
   643 649 fc84 2 643 64a fc85 2 644 645 fc86 2 644 649 fc87 2 644 64a fc88 2 645 627 fc89 2
   645 645 fc8a 2 646 631 fc8b 2 646 632 fc8c 2 646 645 fc8d 2 646 646 fc8e 2 646 649 fc8f 2
   646 64a fc90 2 649 670 fc91 2 64a 631 fc92 2 64a 632 fc93 2 64a 645 fc94 2 64a 646 fc95 2
   64a 649 fc96 2 64a 64a fc97 2 626 62c fc98 2 626 62d fc99 2 626 62e fc9a 2 626 645 fc9b 2
   626 647 fc9c 2 628 62c fc9d 2 628 62d fc9e 2 628 62e fc9f 2 628 645 fca0 2 628 647 fca1 2
   62a 62c fca2 2 62a 62d fca3 2 62a 62e fca4 2 62a 645 fca5 2 62a 647 fca6 2 62b 645 fca7 2
   62c 62d fca8 2 62c 645 fca9 2 62d 62c fcaa 2 62d 645 fcab 2 62e 62c fcac 2 62e 645 fcad 2
   633 62c fcae 2 633 62d fcaf 2 633 62e fcb0 2 633 645 fcb1 2 635 62d fcb2 2 635 62e fcb3 2
   635 645 fcb4 2 636 62c fcb5 2 636 62d fcb6 2 636 62e fcb7 2 636 645 fcb8 2 637 62d fcb9 2
   638 645 fcba 2 639 62c fcbb 2 639 645 fcbc 2 63a 62c fcbd 2 63a 645 fcbe 2 641 62c fcbf 2
   641 62d fcc0 2 641 62e fcc1 2 641 645 fcc2 2 642 62d fcc3 2 642 645 fcc4 2 643 62c fcc5 2
   643 62d fcc6 2 643 62e fcc7 2 643 644 fcc8 2 643 645 fcc9 2 644 62c fcca 2 644 62d fccb 2
   644 62e fccc 2 644 645 fccd 2 644 647 fcce 2 645 62c fccf 2 645 62d fcd0 2 645 62e fcd1 2
   645 645 fcd2 2 646 62c fcd3 2 646 62d fcd4 2 646 62e fcd5 2 646 645 fcd6 2 646 647 fcd7 2
   647 62c fcd8 2 647 645 fcd9 2 647 670 fcda 2 64a 62c fcdb 2 64a 62d fcdc 2 64a 62e fcdd 2
   64a 645 fcde 2 64a 647 fcdf 2 626 645 fce0 2 626 647 fce1 2 628 645 fce2 2 628 647 fce3 2
   62a 645 fce4 2 62a 647 fce5 2 62b 645 fce6 2 62b 647 fce7 2 633 645 fce8 2 633 647 fce9 2
   634 645 fcea 2 634 647 fceb 2 643 644 fcec 2 643 645 fced 2 644 645 fcee 2 646 645 fcef 2
   646 647 fcf0 2 64a 645 fcf1 2 64a 647 fcf2 3 640 64e 651 fcf3 3 640 64f 651 fcf4 3 640 650
   651 fcf5 2 637 649 fcf6 2 637 64a fcf7 2 639 649 fcf8 2 639 64a fcf9 2 63a 649 fcfa 2 63a
   64a fcfb 2 633 649 fcfc 2 633 64a fcfd 2 634 649 fcfe 2 634 64a fcff 2 62d 649 fd00 2 62d
   64a fd01 2 62c 649 fd02 2 62c 64a fd03 2 62e 649 fd04 2 62e 64a fd05 2 635 649 fd06 2 635
   64a fd07 2 636 649 fd08 2 636 64a fd09 2 634 62c fd0a 2 634 62d fd0b 2 634 62e fd0c 2 634
   645 fd0d 2 634 631 fd0e 2 633 631 fd0f 2 635 631 fd10 2 636 631 fd11 2 637 649 fd12 2 637
   64a fd13 2 639 649 fd14 2 639 64a fd15 2 63a 649 fd16 2 63a 64a fd17 2 633 649 fd18 2 633
   64a fd19 2 634 649 fd1a 2 634 64a fd1b 2 62d 649 fd1c 2 62d 64a fd1d 2 62c 649 fd1e 2 62c
   64a fd1f 2 62e 649 fd20 2 62e 64a fd21 2 635 649 fd22 2 635 64a fd23 2 636 649 fd24 2 636
   64a fd25 2 634 62c fd26 2 634 62d fd27 2 634 62e fd28 2 634 645 fd29 2 634 631 fd2a 2 633
   631 fd2b 2 635 631 fd2c 2 636 631 fd2d 2 634 62c fd2e 2 634 62d fd2f 2 634 62e fd30 2 634
   645 fd31 2 633 647 fd32 2 634 647 fd33 2 637 645 fd34 2 633 62c fd35 2 633 62d fd36 2 633
   62e fd37 2 634 62c fd38 2 634 62d fd39 2 634 62e fd3a 2 637 645 fd3b 2 638 645 fd3c 2 627
   64b fd3d 2 627 64b fd50 3 62a 62c 645 fd51 3 62a 62d 62c fd52 3 62a 62d 62c fd53 3 62a 62d
   645 fd54 3 62a 62e 645 fd55 3 62a 645 62c fd56 3 62a 645 62d fd57 3 62a 645 62e fd58 3 62c
   645 62d fd59 3 62c 645 62d fd5a 3 62d 645 64a fd5b 3 62d 645 649 fd5c 3 633 62d 62c fd5d 3
   633 62c 62d fd5e 3 633 62c 649 fd5f 3 633 645 62d fd60 3 633 645 62d fd61 3 633 645 62c fd62
   3 633 645 645 fd63 3 633 645 645 fd64 3 635 62d 62d fd65 3 635 62d 62d fd66 3 635 645 645
   fd67 3 634 62d 645 fd68 3 634 62d 645 fd69 3 634 62c 64a fd6a 3 634 645 62e fd6b 3 634 645
   62e fd6c 3 634 645 645 fd6d 3 634 645 645 fd6e 3 636 62d 649 fd6f 3 636 62e 645 fd70 3 636
   62e 645 fd71 3 637 645 62d fd72 3 637 645 62d fd73 3 637 645 645 fd74 3 637 645 64a fd75 3
   639 62c 645 fd76 3 639 645 645 fd77 3 639 645 645 fd78 3 639 645 649 fd79 3 63a 645 645 fd7a
   3 63a 645 64a fd7b 3 63a 645 649 fd7c 3 641 62e 645 fd7d 3 641 62e 645 fd7e 3 642 645 62d
   fd7f 3 642 645 645 fd80 3 644 62d 645 fd81 3 644 62d 64a fd82 3 644 62d 649 fd83 3 644 62c
   62c fd84 3 644 62c 62c fd85 3 644 62e 645 fd86 3 644 62e 645 fd87 3 644 645 62d fd88 3 644
   645 62d fd89 3 645 62d 62c fd8a 3 645 62d 645 fd8b 3 645 62d 64a fd8c 3 645 62c 62d fd8d 3
   645 62c 645 fd8e 3 645 62e 62c fd8f 3 645 62e 645 fd92 3 645 62c 62e fd93 3 647 645 62c fd94
   3 647 645 645 fd95 3 646 62d 645 fd96 3 646 62d 649 fd97 3 646 62c 645 fd98 3 646 62c 645
   fd99 3 646 62c 649 fd9a 3 646 645 64a fd9b 3 646 645 649 fd9c 3 64a 645 645 fd9d 3 64a 645
   645 fd9e 3 628 62e 64a fd9f 3 62a 62c 64a fda0 3 62a 62c 649 fda1 3 62a 62e 64a fda2 3 62a
   62e 649 fda3 3 62a 645 64a fda4 3 62a 645 649 fda5 3 62c 645 64a fda6 3 62c 62d 649 fda7 3
   62c 645 649 fda8 3 633 62e 649 fda9 3 635 62d 64a fdaa 3 634 62d 64a fdab 3 636 62d 64a fdac
   3 644 62c 64a fdad 3 644 645 64a fdae 3 64a 62d 64a fdaf 3 64a 62c 64a fdb0 3 64a 645 64a
   fdb1 3 645 645 64a fdb2 3 642 645 64a fdb3 3 646 62d 64a fdb4 3 642 645 62d fdb5 3 644 62d
   645 fdb6 3 639 645 64a fdb7 3 643 645 64a fdb8 3 646 62c 62d fdb9 3 645 62e 64a fdba 3 644
   62c 645 fdbb 3 643 645 645 fdbc 3 644 62c 645 fdbd 3 646 62c 62d fdbe 3 62c 62d 64a fdbf 3
   62d 62c 64a fdc0 3 645 62c 64a fdc1 3 641 645 64a fdc2 3 628 62d 64a fdc3 3 643 645 645 fdc4
   3 639 62c 645 fdc5 3 635 645 645 fdc6 3 633 62e 64a fdc7 3 646 62c 64a fdf0 3 635 644 6d2
   fdf1 3 642 644 6d2 fdf2 4 627 644 644 647 fdf3 4 627 643 628 631 fdf4 4 645 62d 645 62f fdf5
   4 635 644 639 645 fdf6 4 631 633 648 644 fdf7 4 639 644 64a 647 fdf8 4 648 633 644 645 fdf9
   3 635 644 649 fdfa 12 635 644 649 20 627 644 644 647 20 639 644 64a 647 20 648 633 644 645
   fdfb 8 62c 644 20 62c 644 627 644 647 fdfc 4 631 6cc 627 644 fe00 0 fe01 0 fe02 0 fe03 0
   fe04 0 fe05 0 fe06 0 fe07 0 fe08 0 fe09 0 fe0a 0 fe0b 0 fe0c 0 fe0d 0 fe0e 0 fe0f 0 fe49 2
   20 305 fe4a 2 20 305 fe4b 2 20 305 fe4c 2 20 305 fe70 2 20 64b fe71 2 640 64b fe72 2 20 64c
   fe74 2 20 64d fe76 2 20 64e fe77 2 640 64e fe78 2 20 64f fe79 2 640 64f fe7a 2 20 650 fe7b 2
   640 650 fe7c 2 20 651 fe7d 2 640 651 fe7e 2 20 652 fe7f 2 640 652 fef5 2 644 622 fef6 2 644
   622 fef7 2 644 623 fef8 2 644 623 fef9 2 644 625 fefa 2 644 625 fefb 2 644 627 fefc 2 644
   627 feff 0 ffe3 2 20 304 1bca0 0 1bca1 0 1bca2 0 1bca3 0 1d15e 2 1d157 1d165 1d15f 2 1d158
   1d165 1d160 3 1d158 1d165 1d16e 1d161 3 1d158 1d165 1d16f 1d162 3 1d158 1d165 1d170 1d163 3
   1d158 1d165 1d171 1d164 3 1d158 1d165 1d172 1d1bb 2 1d1b9 1d165 1d1bc 2 1d1ba 1d165 1d1bd 3
   1d1b9 1d165 1d16e 1d1be 3 1d1ba 1d165 1d16e 1d1bf 3 1d1b9 1d165 1d16f 1d1c0 3 1d1ba 1d165
   1d16f 1f101 2 30 2c 1f102 2 31 2c 1f103 2 32 2c 1f104 2 33 2c 1f105 2 34 2c 1f106 2 35 2c
   1f107 2 36 2c 1f108 2 37 2c 1f109 2 38 2c 1f10a 2 39 2c 1f110 3 28 61 29 1f111 3 28 62 29
   1f112 3 28 63 29 1f113 3 28 64 29 1f114 3 28 65 29 1f115 3 28 66 29 1f116 3 28 67 29 1f117 3
   28 68 29 1f118 3 28 69 29 1f119 3 28 6a 29 1f11a 3 28 6b 29 1f11b 3 28 6c 29 1f11c 3 28 6d
   29 1f11d 3 28 6e 29 1f11e 3 28 6f 29 1f11f 3 28 70 29 1f120 3 28 71 29 1f121 3 28 72 29
   1f122 3 28 73 29 1f123 3 28 74 29 1f124 3 28 75 29 1f125 3 28 76 29 1f126 3 28 77 29 1f127 3
   28 78 29 1f128 3 28 79 29 1f129 3 28 7a 29 1f12a 3 3014 73 3015 1f12d 2 63 64 1f12e 2 77 7a
   1f14a 2 68 76 1f14b 2 6d 76 1f14c 2 73 64 1f14d 2 73 73 1f14e 3 70 70 76 1f14f 2 77 63 1f16a
   2 6d 63 1f16b 2 6d 64 1f16c 2 6d 72 1f190 2 64 6a 1f200 2 307b 304b 1f201 2 30b3 30b3 1f240
   3 3014 672c 3015 1f241 3 3014 4e09 3015 1f242 3 3014 4e8c 3015 1f243 3 3014 5b89 3015 1f244
   3 3014 70b9 3015 1f245 3 3014 6253 3015 1f246 3 3014 76d7 3015 1f247 3 3014 52dd 3015 1f248
   3 3014 6557 3015 e0100 0 e0101 0 e0102 0 e0103 0 e0104 0 e0105 0 e0106 0 e0107 0 e0108 0
   e0109 0 e010a 0 e010b 0 e010c 0 e010d 0 e010e 0 e010f 0 e0110 0 e0111 0 e0112 0 e0113 0
   e0114 0 e0115 0 e0116 0 e0117 0 e0118 0 e0119 0 e011a 0 e011b 0 e011c 0 e011d 0 e011e 0
   e011f 0 e0120 0 e0121 0 e0122 0 e0123 0 e0124 0 e0125 0 e0126 0 e0127 0 e0128 0 e0129 0
   e012a 0 e012b 0 e012c 0 e012d 0 e012e 0 e012f 0 e0130 0 e0131 0 e0132 0 e0133 0 e0134 0
   e0135 0 e0136 0 e0137 0 e0138 0 e0139 0 e013a 0 e013b 0 e013c 0 e013d 0 e013e 0 e013f 0
   e0140 0 e0141 0 e0142 0 e0143 0 e0144 0 e0145 0 e0146 0 e0147 0 e0148 0 e0149 0 e014a 0
   e014b 0 e014c 0 e014d 0 e014e 0 e014f 0 e0150 0 e0151 0 e0152 0 e0153 0 e0154 0 e0155 0
   e0156 0 e0157 0 e0158 0 e0159 0 e015a 0 e015b 0 e015c 0 e015d 0 e015e 0 e015f 0 e0160 0
   e0161 0 e0162 0 e0163 0 e0164 0 e0165 0 e0166 0 e0167 0 e0168 0 e0169 0 e016a 0 e016b 0
   e016c 0 e016d 0 e016e 0 e016f 0 e0170 0 e0171 0 e0172 0 e0173 0 e0174 0 e0175 0 e0176 0
   e0177 0 e0178 0 e0179 0 e017a 0 e017b 0 e017c 0 e017d 0 e017e 0 e017f 0 e0180 0 e0181 0
   e0182 0 e0183 0 e0184 0 e0185 0 e0186 0 e0187 0 e0188 0 e0189 0 e018a 0 e018b 0 e018c 0
   e018d 0 e018e 0 e018f 0 e0190 0 e0191 0 e0192 0 e0193 0 e0194 0 e0195 0 e0196 0 e0197 0
   e0198 0 e0199 0 e019a 0 e019b 0 e019c 0 e019d 0 e019e 0 e019f 0 e01a0 0 e01a1 0 e01a2 0
   e01a3 0 e01a4 0 e01a5 0 e01a6 0 e01a7 0 e01a8 0 e01a9 0 e01aa 0 e01ab 0 e01ac 0 e01ad 0
   e01ae 0 e01af 0 e01b0 0 e01b1 0 e01b2 0 e01b3 0 e01b4 0 e01b5 0 e01b6 0 e01b7 0 e01b8 0
   e01b9 0 e01ba 0 e01bb 0 e01bc 0 e01bd 0 e01be 0 e01bf 0 e01c0 0 e01c1 0 e01c2 0 e01c3 0
   e01c4 0 e01c5 0 e01c6 0 e01c7 0 e01c8 0 e01c9 0 e01ca 0 e01cb 0 e01cc 0 e01cd 0 e01ce 0
   e01cf 0 e01d0 0 e01d1 0 e01d2 0 e01d3 0 e01d4 0 e01d5 0 e01d6 0 e01d7 0 e01d8 0 e01d9 0
   e01da 0 e01db 0 e01dc 0 e01dd 0 e01de 0 e01df 0 e01e0 0 e01e1 0 e01e2 0 e01e3 0 e01e4 0
   e01e5 0 e01e6 0 e01e7 0 e01e8 0 e01e9 0 e01ea 0 e01eb 0 e01ec 0 e01ed 0 e01ee 0 e01ef 0"

/-- The runs of `kept` within Latin-1. -/
def keptLatin : String := "a1 7 a9 1 ab 2 ae 1 b0 2 b6 2 bb 1 bf 1 d7 1 df 21 "

/-- Runs of characters that stand for themselves: the first and how many. -/
def kept : String := keptLatin ++
  "101 1 103 1 105 1 107 1 109 1 10b 1 10d 1
   10f 1 111 1 113 1 115 1 117 1 119 1 11b 1 11d 1 11f 1 121 1 123 1 125 1 127 1 129 1 12b 1
   12d 1 12f 1 131 1 135 1 137 2 13a 1 13c 1 13e 1 142 1 144 1 146 1 148 1 14b 1 14d 1 14f 1
   151 1 153 1 155 1 157 1 159 1 15b 1 15d 1 15f 1 161 1 163 1 165 1 167 1 169 1 16b 1 16d 1
   16f 1 171 1 173 1 175 1 177 1 17a 1 17c 1 17e 1 180 1 183 1 185 1 188 1 18c 2 192 1 195 1
   199 3 19e 1 1a1 1 1a3 1 1a5 1 1a8 1 1aa 2 1ad 1 1b0 1 1b4 1 1b6 1 1b9 3 1bd 7 1ce 1 1d0 1
   1d2 1 1d4 1 1d6 1 1d8 1 1da 1 1dc 2 1df 1 1e1 1 1e3 1 1e5 1 1e7 1 1e9 1 1eb 1 1ed 1 1ef 2
   1f5 1 1f9 1 1fb 1 1fd 1 1ff 1 201 1 203 1 205 1 207 1 209 1 20b 1 20d 1 20f 1 211 1 213 1
   215 1 217 1 219 1 21b 1 21d 1 21f 1 221 1 223 1 225 1 227 1 229 1 22b 1 22d 1 22f 1 231 1
   233 7 23c 1 23f 2 242 1 247 1 249 1 24b 1 24d 1 24f 61 2b9 1f 2de 2 2e5 5b 342 1 346 9 350
   20 371 1 373 1 375 1 377 1 37b 3 390 1 3ac 23 3d7 1 3d9 1 3db 1 3dd 1 3df 1 3e1 1 3e3 1 3e5
   1 3e7 1 3e9 1 3eb 1 3ed 1 3ef 1 3f3 1 3f6 1 3f8 1 3fb 2 430 30 461 1 463 1 465 1 467 1 469 1
   46b 1 46d 1 46f 1 471 1 473 1 475 1 477 1 479 1 47b 1 47d 1 47f 1 481 9 48b 1 48d 1 48f 1
   491 1 493 1 495 1 497 1 499 1 49b 1 49d 1 49f 1 4a1 1 4a3 1 4a5 1 4a7 1 4a9 1 4ab 1 4ad 1
   4af 1 4b1 1 4b3 1 4b5 1 4b7 1 4b9 1 4bb 1 4bd 1 4bf 1 4c2 1 4c4 1 4c6 1 4c8 1 4ca 1 4cc 1
   4ce 2 4d1 1 4d3 1 4d5 1 4d7 1 4d9 1 4db 1 4dd 1 4df 1 4e1 1 4e3 1 4e5 1 4e7 1 4e9 1 4eb 1
   4ed 1 4ef 1 4f1 1 4f3 1 4f5 1 4f7 1 4f9 1 4fb 1 4fd 1 4ff 1 501 1 503 1 505 1 507 1 509 1
   50b 1 50d 1 50f 1 511 1 513 1 515 1 517 1 519 1 51b 1 51d 1 51f 1 521 1 523 1 525 1 527 1
   529 1 52b 1 52d 1 52f 1 559 2e 588 3 58d 3 591 37 5d0 1b 5ef 6 606 16 61d 58 679 64 6de 30
   710 3b 74d 65 7c0 3b 7fd 31 830 f 840 1c 85e 1 860 b 870 1f 898 4a 8e3 75 960 24 985 8 98f 2
   993 16 9aa 7 9b2 1 9b6 4 9bc 9 9c7 2 9cb 4 9d7 1 9e0 4 9e6 19 a01 3 a05 6 a0f 2 a13 16 a2a 7
   a32 1 a35 1 a38 2 a3c 1 a3e 5 a47 2 a4b 3 a51 1 a5c 1 a66 11 a81 3 a85 9 a8f 3 a93 16 aaa 7
   ab2 2 ab5 5 abc a ac7 3 acb 3 ad0 1 ae0 4 ae6 c af9 7 b01 3 b05 8 b0f 2 b13 16 b2a 7 b32 2
   b35 5 b3c 9 b47 2 b4b 3 b55 3 b5f 5 b66 12 b82 2 b85 6 b8e 3 b92 4 b99 2 b9c 1 b9e 2 ba3 2
   ba8 3 bae c bbe 5 bc6 3 bca 4 bd0 1 bd7 1 be6 15 c00 d c0e 3 c12 17 c2a 10 c3c 9 c46 3 c4a 4
   c55 2 c58 3 c5d 1 c60 4 c66 a c77 16 c8e 3 c92 17 caa a cb5 5 cbc 9 cc6 3 cca 4 cd5 2 cdd 2
   ce0 4 ce6 a cf1 3 d00 d d0e 3 d12 33 d46 3 d4a 6 d54 10 d66 1a d81 3 d85 12 d9a 18 db3 9 dbd
   1 dc0 7 dca 1 dcf 6 dd6 1 dd8 8 de6 a df2 3 e01 32 e34 7 e3f 1d e81 2 e84 1 e86 5 e8c 18 ea5
   1 ea7 c eb4 a ec0 5 ec6 1 ec8 7 ed0 a ede 2 f00 c f0d 36 f44 4 f49 4 f4e 4 f53 4 f58 4 f5d c
   f6a 3 f71 2 f74 1 f7a 7 f82 11 f94 4 f99 4 f9e 4 fa3 4 fa8 4 fad c fba 3 fbe f fce d 1000 a0
   10d0 2c 10fd 62 1161 e8 124a 4 1250 7 1258 1 125a 4 1260 29 128a 4 1290 21 12b2 4 12b8 7
   12c0 1 12c2 4 12c8 f 12d8 39 1312 4 1318 43 135d 20 1380 1a 13a0 56 1400 280 1681 1c 16a0 59
   1700 16 171f 18 1740 14 1760 d 176e 3 1772 2 1780 34 17b6 28 17e0 a 17f0 a 1800 6 1807 4
   1810 a 1820 59 1880 2b 18b0 46 1900 1f 1920 c 1930 c 1940 1 1944 2a 1970 5 1980 2c 19b0 1a
   19d0 b 19de 3e 1a1e 41 1a60 1d 1a7f b 1a90 a 1aa0 e 1ab0 1f 1b00 4d 1b50 2f 1b80 74 1bfc 3c
   1c3b f 1c4d 33 1cc0 8 1cd0 2b 1d00 2c 1d2f 1 1d3b 1 1d4e 1 1d6b d 1d79 22 1dc0 40 1e01 1
   1e03 1 1e05 1 1e07 1 1e09 1 1e0b 1 1e0d 1 1e0f 1 1e11 1 1e13 1 1e15 1 1e17 1 1e19 1 1e1b 1
   1e1d 1 1e1f 1 1e21 1 1e23 1 1e25 1 1e27 1 1e29 1 1e2b 1 1e2d 1 1e2f 1 1e31 1 1e33 1 1e35 1
   1e37 1 1e39 1 1e3b 1 1e3d 1 1e3f 1 1e41 1 1e43 1 1e45 1 1e47 1 1e49 1 1e4b 1 1e4d 1 1e4f 1
   1e51 1 1e53 1 1e55 1 1e57 1 1e59 1 1e5b 1 1e5d 1 1e5f 1 1e61 1 1e63 1 1e65 1 1e67 1 1e69 1
   1e6b 1 1e6d 1 1e6f 1 1e71 1 1e73 1 1e75 1 1e77 1 1e79 1 1e7b 1 1e7d 1 1e7f 1 1e81 1 1e83 1
   1e85 1 1e87 1 1e89 1 1e8b 1 1e8d 1 1e8f 1 1e91 1 1e93 1 1e95 5 1e9c 2 1e9f 1 1ea1 1 1ea3 1
   1ea5 1 1ea7 1 1ea9 1 1eab 1 1ead 1 1eaf 1 1eb1 1 1eb3 1 1eb5 1 1eb7 1 1eb9 1 1ebb 1 1ebd 1
   1ebf 1 1ec1 1 1ec3 1 1ec5 1 1ec7 1 1ec9 1 1ecb 1 1ecd 1 1ecf 1 1ed1 1 1ed3 1 1ed5 1 1ed7 1
   1ed9 1 1edb 1 1edd 1 1edf 1 1ee1 1 1ee3 1 1ee5 1 1ee7 1 1ee9 1 1eeb 1 1eed 1 1eef 1 1ef1 1
   1ef3 1 1ef5 1 1ef7 1 1ef9 1 1efb 1 1efd 1 1eff 9 1f10 6 1f20 8 1f30 8 1f40 6 1f50 8 1f60 8
   1f70 1 1f72 1 1f74 1 1f76 1 1f78 1 1f7a 1 1f7c 1 1fb0 2 1fb6 1 1fc6 1 1fd0 3 1fd6 2 1fe0 3
   1fe4 4 1ff6 1 200c 2 2010 1 2012 5 2018 c 2027 1 2030 3 2035 1 2038 4 203d 1 203f 8 204a d
   2058 7 20a0 8 20a9 18 20d0 21 2104 1 2108 1 2114 1 2117 2 211e 2 2123 1 2125 1 2127 1 2129 1
   212e 1 213a 1 2141 4 214a 6 2180 3 2184 5 218a 2 2190 9c 222e 1 2231 f8 232b fc 2440 b 24eb
   521 2a0d 67 2a77 65 2add 97 2b76 20 2b97 69 2c30 30 2c61 1 2c65 2 2c68 1 2c6a 1 2c6c 1 2c71
   1 2c73 2 2c76 6 2c81 1 2c83 1 2c85 1 2c87 1 2c89 1 2c8b 1 2c8d 1 2c8f 1 2c91 1 2c93 1 2c95 1
   2c97 1 2c99 1 2c9b 1 2c9d 1 2c9f 1 2ca1 1 2ca3 1 2ca5 1 2ca7 1 2ca9 1 2cab 1 2cad 1 2caf 1
   2cb1 1 2cb3 1 2cb5 1 2cb7 1 2cb9 1 2cbb 1 2cbd 1 2cbf 1 2cc1 1 2cc3 1 2cc5 1 2cc7 1 2cc9 1
   2ccb 1 2ccd 1 2ccf 1 2cd1 1 2cd3 1 2cd5 1 2cd7 1 2cd9 1 2cdb 1 2cdd 1 2cdf 1 2ce1 1 2ce3 8
   2cec 1 2cee 4 2cf3 1 2cf9 2d 2d27 1 2d2d 1 2d30 38 2d70 1 2d7f 18 2da0 7 2da8 7 2db0 7 2db8
   7 2dc0 7 2dc8 7 2dd0 7 2dd8 7 2de0 7e 2e80 1a 2e9b 4 2ea0 53 3001 1 3003 33 3037 1 303b 5
   3041 56 3099 2 309d 2 30a0 5f 3105 2b 3190 2 31a0 44 31f0 10 3248 8 327f 1 3400 708d a490 37
   a4d0 15c a641 1 a643 1 a645 1 a647 1 a649 1 a64b 1 a64d 1 a64f 1 a651 1 a653 1 a655 1 a657 1
   a659 1 a65b 1 a65d 1 a65f 1 a661 1 a663 1 a665 1 a667 1 a669 1 a66b 1 a66d 13 a681 1 a683 1
   a685 1 a687 1 a689 1 a68b 1 a68d 1 a68f 1 a691 1 a693 1 a695 1 a697 1 a699 1 a69b 1 a69e 5a
   a700 22 a723 1 a725 1 a727 1 a729 1 a72b 1 a72d 1 a72f 3 a733 1 a735 1 a737 1 a739 1 a73b 1
   a73d 1 a73f 1 a741 1 a743 1 a745 1 a747 1 a749 1 a74b 1 a74d 1 a74f 1 a751 1 a753 1 a755 1
   a757 1 a759 1 a75b 1 a75d 1 a75f 1 a761 1 a763 1 a765 1 a767 1 a769 1 a76b 1 a76d 1 a76f 1
   a771 8 a77a 1 a77c 1 a77f 1 a781 1 a783 1 a785 1 a787 4 a78c 1 a78e 2 a791 1 a793 3 a797 1
   a799 1 a79b 1 a79d 1 a79f 1 a7a1 1 a7a3 1 a7a5 1 a7a7 1 a7a9 1 a7af 1 a7b5 1 a7b7 1 a7b9 1
   a7bb 1 a7bd 1 a7bf 1 a7c1 1 a7c3 1 a7c8 1 a7ca 1 a7d1 1 a7d3 1 a7d5 1 a7d7 1 a7d9 1 a7f6 2
   a7fa 33 a830 a a840 38 a880 46 a8ce c a8e0 74 a95f 1e a980 4e a9cf b a9de 21 aa00 37 aa40 e
   aa50 a aa5c 67 aadb 1c ab01 6 ab09 6 ab11 6 ab20 7 ab28 7 ab30 2c ab60 9 ab6a 2 abc0 2e abf0
   a ac00 2ba4 d7b0 17 d7cb 31 fa0e 2 fa11 1 fa13 2 fa1f 1 fa21 1 fa23 2 fa27 3 fb1e 1 fbb2 11
   fd3e 12 fdcf 1 fdfd 3 fe20 10 fe45 2 fe73 1 10000 c 1000d 1a 10028 13 1003c 2 1003f f 10050
   e 10080 7b 10100 3 10107 2d 10137 58 10190 d 101a0 1 101d0 2e 10280 1d 102a0 31 102e0 1c
   10300 24 1032d 1e 10350 2b 10380 1e 1039f 25 103c8 e 10428 76 104a0 a 104d8 24 10500 28
   10530 34 1056f 1 10597 b 105a3 f 105b3 7 105bb 2 10600 137 10740 16 10760 8 10780 1 10800 6
   10808 1 1080a 2c 10837 2 1083c 1 1083f 17 10857 48 108a7 9 108e0 13 108f4 2 108fb 21 1091f
   1b 1093f 1 10980 38 109bc 14 109d2 32 10a05 2 10a0c 8 10a15 3 10a19 1d 10a38 3 10a3f a 10a50
   9 10a60 40 10ac0 27 10aeb c 10b00 36 10b39 1d 10b58 1b 10b78 1a 10b99 4 10ba9 7 10c00 49
   10cc0 33 10cfa 2e 10d30 a 10e60 1f 10e80 2a 10eab 3 10eb0 2 10efd 2b 10f30 2a 10f70 1a 10fb0
   1c 10fe0 17 11000 4e 11052 24 1107f 3e 110be 5 110d0 19 110f0 a 11100 35 11136 12 11150 27
   11180 60 111e1 14 11200 12 11213 2f 11280 7 11288 1 1128a 4 1128f f 1129f b 112b0 3b 112f0 a
   11300 4 11305 8 1130f 2 11313 16 1132a 7 11332 2 11335 5 1133b a 11347 2 1134b 3 11350 1
   11357 1 1135d 7 11366 7 11370 5 11400 5c 1145d 5 11480 48 114d0 a 11580 36 115b8 26 11600 45
   11650 a 11660 d 11680 3a 116c0 a 11700 1b 1171d f 11730 17 11800 3c 118c0 33 118ff 8 11909 1
   1190c 8 11915 2 11918 1e 11937 2 1193b c 11950 a 119a0 8 119aa 2e 119da b 11a00 48 11a50 53
   11ab0 49 11b00 a 11c00 9 11c0a 2d 11c38 e 11c50 1d 11c70 20 11c92 16 11ca9 e 11d00 7 11d08 2
   11d0b 2c 11d3a 1 11d3c 2 11d3f 9 11d50 a 11d60 6 11d67 2 11d6a 25 11d90 2 11d93 6 11da0 a
   11ee0 19 11f00 11 11f12 29 11f3e 1c 11fb0 1 11fc0 32 11fff 39b 12400 6f 12470 5 12480 c4
   12f90 63 13000 430 13440 16 14400 247 16800 239 16a40 1f 16a60 a 16a6e 51 16ac0 a 16ad0 1e
   16af0 6 16b00 46 16b50 a 16b5b 7 16b63 15 16b7d 13 16e60 3b 16f00 4b 16f4f 39 16f8f 11 16fe0
   5 16ff0 2 17000 17f8 18800 4d6 18d00 9 1aff0 4 1aff5 7 1affd 2 1b000 123 1b132 1 1b150 3
   1b155 1 1b164 4 1b170 18c 1bc00 6b 1bc70 d 1bc80 9 1bc90 a 1bc9c 4 1cf00 2e 1cf30 17 1cf50
   74 1d000 f6 1d100 27 1d129 35 1d165 e 1d17b 40 1d1c1 2a 1d200 46 1d2c0 14 1d2e0 14 1d300 57
   1d360 19 1d800 28c 1da9b 5 1daa1 f 1df00 1f 1df25 6 1e000 7 1e008 11 1e01b 7 1e023 2 1e026 5
   1e08f 1 1e100 2d 1e130 e 1e140 a 1e14e 2 1e290 1f 1e2c0 3a 1e2ff 1 1e4d0 2a 1e7e0 7 1e7e8 4
   1e7ed 2 1e7f0 f 1e800 c5 1e8c7 10 1e922 2a 1e950 a 1e95e 2 1ec71 44 1ed01 3d 1eef0 2 1f000
   2c 1f030 64 1f0a0 f 1f0b1 f 1f0c1 f 1f0d1 25 1f10b 5 1f12f 1 1f150 1a 1f16d 23 1f191 1d
   1f1e6 1a 1f260 6 1f300 3d8 1f6dc 11 1f6f0 d 1f700 77 1f77b 5f 1f7e0 c 1f7f0 1 1f800 c 1f810
   38 1f850 a 1f860 28 1f890 1e 1f8b0 2 1f900 154 1fa60 e 1fa70 d 1fa80 9 1fa90 2e 1fabf 7
   1face e 1fae0 9 1faf0 9 1fb00 93 1fb94 37 20000 a6e0 2a700 103a 2b740 de 2b820 1682 2ceb0
   1d31 2ebf0 26e 30000 134b 31350 1060"

/-! ### The mapping -/

/-- The target of a character in a progression. -/
def inProgression? (row : Nat × Nat × Nat × Nat × Nat) (c : Nat) : Option Nat :=
  let (first, count, step, target, targetStep) := row
  let offset := c - first
  if first ≤ c ∧ offset % step = 0 ∧ offset / step < count then
    some (target + offset / step * targetStep)
  else none

/-- The rows of `progressions`. -/
def progressionRows : Array (Nat × Nat × Nat × Nat × Nat) :=
  (Numerals.quintuples (Numerals.read progressions)).toArray

/-- The rows of `single`. -/
def singleRows : Array (Nat × Nat) := (Numerals.pairs (Numerals.read single)).toArray

/-- The rows of `several`. -/
def severalRows : Array (Nat × List Nat) :=
  let numbers := Numerals.read several
  (Numerals.entries numbers.length numbers).toArray

/-- The rows of `kept`. -/
def keptRuns : Array Run := Run.ofPairs kept

/-- A character beyond ASCII stands for itself. -/
def isKept (c : Char) : Bool := keptRuns.any (·.contains c)

/-- What a character beyond ASCII is mapped to, unless it is not allowed. -/
def lookup? (c : Char) : Option (List Char) :=
  if isKept c then some [c]
  else
    match progressionRows.findSome? (inProgression? · c.toNat) with
    | some target => some [Char.ofNat target]
    | none =>
      match singleRows.find? (·.1 = c.toNat) with
      | some (_, target) => some [Char.ofNat target]
      | none => (severalRows.find? (·.1 = c.toNat)).map (·.2.map Char.ofNat)

/-- What a character is mapped to, unless it is not allowed. -/
def image? (c : Char) : Option (List Char) :=
  if c.toNat < 0x80 then some [c.toLower] else lookup? c

/-- A character that may stand in a mapped name: it is mapped to itself. -/
def isStable (c : Char) : Bool := if c.toNat < 0x80 then c.toLower = c else isKept c

end ResilientChannel.Url.Domain.Mapping

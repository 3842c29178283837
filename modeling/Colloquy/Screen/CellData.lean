/-!
# Cell data

Tables of the Unicode character database (version 16.0) used to lay text out in terminal
cells. Boundaries are sorted hexadecimal numbers that start and end ranges in turn; a table of
kinds lists the hexadecimal start of each range followed by one letter for its kind.

* `wideText`: characters of East Asian Width W or F. They take two cells.
* `zeroWidthText`: characters that take no cell: those that extend a grapheme, the
  default-ignorable ones, Hangul medial and final jamo, the prepended marks that are not
  concatenation marks, five concatenation marks that sit above the number they mark, and
  eight Kannada and Balinese vowel signs that decompose into two extending marks. The Hangul
  choseong filler and the Tifinagh consonant joiner are left out: they are shown.
* `breakText`: the grapheme cluster break property, a table of kinds: `x` other, `r` CR,
  `n` LF, `c` control, `e` extend, `z` ZWJ, `i` regional indicator, `p` prepend, `s` spacing
  mark, and `L` `V` `T` for the Hangul jamo kinds. Precomposed Hangul syllables (LV and LVT)
  are listed as other; their kind follows from their position in the block.
* `pictographicText`: the Extended_Pictographic property.
* `conjunctText`: the Indic_Conjunct_Break property, a table of kinds: `c` consonant,
  `l` linker, `e` extend, `x` none.
* `emojiText`: the Emoji_Presentation property.
* `modifierBaseText`: the Emoji_Modifier_Base property.
* `emojiVariationText`: the characters that start an emoji variation sequence.
-/

namespace Colloquy.Screen

/-- Boundaries of the characters that take two cells. -/
def wideText : String :=
  "1100 1160 231a 231c 2329 232b 23e9 23ed 23f0 23f1 23f3 23f4 25fd 25ff 2614 2616 2630 2638 2648" ++
  " 2654 267f 2680 268a 2690 2693 2694 26a1 26a2 26aa 26ac 26bd 26bf 26c4 26c6 26ce 26cf 26d4 26d5" ++
  " 26ea 26eb 26f2 26f4 26f5 26f6 26fa 26fb 26fd 26fe 2705 2706 270a 270c 2728 2729 274c 274d 274e" ++
  " 274f 2753 2756 2757 2758 2795 2798 27b0 27b1 27bf 27c0 2b1b 2b1d 2b50 2b51 2b55 2b56 2e80 2e9a" ++
  " 2e9b 2ef4 2f00 2fd6 2ff0 303f 3041 3097 3099 3100 3105 3130 3131 318f 3190 31e6 31ef 321f 3220" ++
  " 3248 3250 4dc0 4e00 a48d a490 a4c7 a960 a97d ac00 d7a4 f900 fb00 fe10 fe1a fe30 fe53 fe54 fe67" ++
  " fe68 fe6c ff01 ff61 ffe0 ffe7 16fe0 16fe5 16ff0 16ff2 17000 187f8 18800 18cd6 18cff 18d09 1aff0" ++
  " 1aff4 1aff5 1affc 1affd 1afff 1b000 1b123 1b132 1b133 1b150 1b153 1b155 1b156 1b164 1b168 1b170" ++
  " 1b2fc 1d300 1d357 1d360 1d377 1f004 1f005 1f0cf 1f0d0 1f18e 1f18f 1f191 1f19b 1f200 1f203 1f210" ++
  " 1f23c 1f240 1f249 1f250 1f252 1f260 1f266 1f300 1f321 1f32d 1f336 1f337 1f37d 1f37e 1f394 1f3a0" ++
  " 1f3cb 1f3cf 1f3d4 1f3e0 1f3f1 1f3f4 1f3f5 1f3f8 1f43f 1f440 1f441 1f442 1f4fd 1f4ff 1f53e 1f54b" ++
  " 1f54f 1f550 1f568 1f57a 1f57b 1f595 1f597 1f5a4 1f5a5 1f5fb 1f650 1f680 1f6c6 1f6cc 1f6cd 1f6d0" ++
  " 1f6d3 1f6d5 1f6d8 1f6dc 1f6e0 1f6eb 1f6ed 1f6f4 1f6fd 1f7e0 1f7ec 1f7f0 1f7f1 1f90c 1f93b 1f93c" ++
  " 1f946 1f947 1fa00 1fa70 1fa7d 1fa80 1fa8a 1fa8f 1fac7 1face 1fadd 1fadf 1faea 1faf0 1faf9 20000" ++
  " 2fffe 30000 3fffe"

/-- Boundaries of the characters that take no cell. -/
def zeroWidthText : String :=
  "ad ae 300 370 483 48a 591 5be 5bf 5c0 5c1 5c3 5c4 5c6 5c7 5c8 605 606 610 61b 61c 61d 64b 660" ++
  " 670 671 6d6 6dd 6df 6e5 6e7 6e9 6ea 6ee 70f 710 711 712 730 74b 7a6 7b1 7eb 7f4 7fd 7fe 816 81a" ++
  " 81b 824 825 828 829 82e 859 85c 890 892 897 8a0 8ca 903 93a 93b 93c 93d 941 949 94d 94e 951 958" ++
  " 962 964 981 982 9bc 9bd 9be 9bf 9c1 9c5 9cd 9ce 9d7 9d8 9e2 9e4 9fe 9ff a01 a03 a3c a3d a41 a43" ++
  " a47 a49 a4b a4e a51 a52 a70 a72 a75 a76 a81 a83 abc abd ac1 ac6 ac7 ac9 acd ace ae2 ae4 afa b00" ++
  " b01 b02 b3c b3d b3e b40 b41 b45 b4d b4e b55 b58 b62 b64 b82 b83 bbe bbf bc0 bc1 bcd bce bd7 bd8" ++
  " c00 c01 c04 c05 c3c c3d c3e c41 c46 c49 c4a c4e c55 c57 c62 c64 c81 c82 cbc cbd cbf cc1 cc2 cc3" ++
  " cc6 cc9 cca cce cd5 cd7 ce2 ce4 d00 d02 d3b d3d d3e d3f d41 d45 d4d d4f d57 d58 d62 d64 d81 d82" ++
  " dca dcb dcf dd0 dd2 dd5 dd6 dd7 ddf de0 e31 e32 e34 e3b e47 e4f eb1 eb2 eb4 ebd ec8 ecf f18 f1a" ++
  " f35 f36 f37 f38 f39 f3a f71 f7f f80 f85 f86 f88 f8d f98 f99 fbd fc6 fc7 102d 1031 1032 1038 1039" ++
  " 103b 103d 103f 1058 105a 105e 1061 1071 1075 1082 1083 1085 1087 108d 108e 109d 109e 1160 1200" ++
  " 135d 1360 1712 1716 1732 1735 1752 1754 1772 1774 17b4 17b6 17b7 17be 17c6 17c7 17c9 17d4 17dd" ++
  " 17de 180b 1810 1885 1887 18a9 18aa 1920 1923 1927 1929 1932 1933 1939 193c 1a17 1a19 1a1b 1a1c" ++
  " 1a56 1a57 1a58 1a5f 1a60 1a61 1a62 1a63 1a65 1a6d 1a73 1a7d 1a7f 1a80 1ab0 1acf 1b00 1b04 1b34" ++
  " 1b3e 1b42 1b45 1b6b 1b74 1b80 1b82 1ba2 1ba6 1ba8 1bae 1be6 1be7 1be8 1bea 1bed 1bee 1bef 1bf4" ++
  " 1c2c 1c34 1c36 1c38 1cd0 1cd3 1cd4 1ce1 1ce2 1ce9 1ced 1cee 1cf4 1cf5 1cf8 1cfa 1dc0 1e00 200b" ++
  " 2010 202a 202f 2060 2070 20d0 20f1 2cef 2cf2 2de0 2e00 302a 3030 3099 309b 3164 3165 a66f a673" ++
  " a674 a67e a69e a6a0 a6f0 a6f2 a802 a803 a806 a807 a80b a80c a825 a827 a82c a82d a8c4 a8c6 a8e0" ++
  " a8f2 a8ff a900 a926 a92e a947 a952 a953 a954 a980 a983 a9b3 a9b4 a9b6 a9ba a9bc a9be a9c0 a9c1" ++
  " a9e5 a9e6 aa29 aa2f aa31 aa33 aa35 aa37 aa43 aa44 aa4c aa4d aa7c aa7d aab0 aab1 aab2 aab5 aab7" ++
  " aab9 aabe aac0 aac1 aac2 aaec aaee aaf6 aaf7 abe5 abe6 abe8 abe9 abed abee d7b0 d7c7 d7cb d7fc" ++
  " fb1e fb1f fe00 fe10 fe20 fe30 feff ff00 ff9e ffa1 fff0 fff9 101fd 101fe 102e0 102e1 10376 1037b" ++
  " 10a01 10a04 10a05 10a07 10a0c 10a10 10a38 10a3b 10a3f 10a40 10ae5 10ae7 10d24 10d28 10d69 10d6e" ++
  " 10eab 10ead 10efc 10f00 10f46 10f51 10f82 10f86 11001 11002 11038 11047 11070 11071 11073 11075" ++
  " 1107f 11082 110b3 110b7 110b9 110bb 110c2 110c3 11100 11103 11127 1112c 1112d 11135 11173 11174" ++
  " 11180 11182 111b6 111bf 111c0 111c1 111c2 111c4 111c9 111cd 111cf 111d0 1122f 11232 11234 11238" ++
  " 1123e 1123f 11241 11242 112df 112e0 112e3 112eb 11300 11302 1133b 1133d 1133e 1133f 11340 11341" ++
  " 1134d 1134e 11357 11358 11366 1136d 11370 11375 113b8 113b9 113bb 113c1 113c2 113c3 113c5 113c6" ++
  " 113c7 113ca 113ce 113d1 113d2 113d3 113e1 113e3 11438 11440 11442 11445 11446 11447 1145e 1145f" ++
  " 114b0 114b1 114b3 114b9 114ba 114bb 114bd 114be 114bf 114c1 114c2 114c4 115af 115b0 115b2 115b6" ++
  " 115bc 115be 115bf 115c1 115dc 115de 11633 1163b 1163d 1163e 1163f 11641 116ab 116ac 116ad 116ae" ++
  " 116b0 116b8 1171d 11720 11722 11726 11727 1172c 1182f 11838 11839 1183b 11930 11931 1193b 11940" ++
  " 11941 11942 11943 11944 119d4 119d8 119da 119dc 119e0 119e1 11a01 11a0b 11a33 11a39 11a3a 11a3f" ++
  " 11a47 11a48 11a51 11a57 11a59 11a5c 11a84 11a97 11a98 11a9a 11c30 11c37 11c38 11c3e 11c3f 11c40" ++
  " 11c92 11ca8 11caa 11cb1 11cb2 11cb4 11cb5 11cb7 11d31 11d37 11d3a 11d3b 11d3c 11d3e 11d3f 11d48" ++
  " 11d90 11d92 11d95 11d96 11d97 11d98 11ef3 11ef5 11f00 11f03 11f36 11f3b 11f40 11f43 11f5a 11f5b" ++
  " 13440 13441 13447 13456 1611e 1612a 1612d 16130 16af0 16af5 16b30 16b37 16f4f 16f50 16f8f 16f93" ++
  " 16fe4 16fe5 16ff0 16ff2 1bc9d 1bc9f 1bca0 1bca4 1cf00 1cf2e 1cf30 1cf47 1d165 1d16a 1d16d 1d183" ++
  " 1d185 1d18c 1d1aa 1d1ae 1d242 1d245 1da00 1da37 1da3b 1da6d 1da75 1da76 1da84 1da85 1da9b 1daa0" ++
  " 1daa1 1dab0 1e000 1e007 1e008 1e019 1e01b 1e022 1e023 1e025 1e026 1e02b 1e08f 1e090 1e130 1e137" ++
  " 1e2ae 1e2af 1e2ec 1e2f0 1e4ec 1e4f0 1e5ee 1e5f0 1e8d0 1e8d7 1e944 1e94b e0000 e1000"

/-- Ranges of the grapheme cluster break property. -/
def breakText : String :=
  "0c an bc dr ec 20x 7fc a0x adc aex 300e 370x 483e 48ax 591e 5bex 5bfe 5c0x 5c1e 5c3x 5c4e 5c6x" ++
  " 5c7e 5c8x 600p 606x 610e 61bx 61cc 61dx 64be 660x 670e 671x 6d6e 6ddp 6dex 6dfe 6e5x 6e7e 6e9x" ++
  " 6eae 6eex 70fp 710x 711e 712x 730e 74bx 7a6e 7b1x 7ebe 7f4x 7fde 7fex 816e 81ax 81be 824x 825e" ++
  " 828x 829e 82ex 859e 85cx 890p 892x 897e 8a0x 8cae 8e2p 8e3e 903s 904x 93ae 93bs 93ce 93dx 93es" ++
  " 941e 949s 94de 94es 950x 951e 958x 962e 964x 981e 982s 984x 9bce 9bdx 9bee 9bfs 9c1e 9c5x 9c7s" ++
  " 9c9x 9cbs 9cde 9cex 9d7e 9d8x 9e2e 9e4x 9fee 9ffx a01e a03s a04x a3ce a3dx a3es a41e a43x a47e" ++
  " a49x a4be a4ex a51e a52x a70e a72x a75e a76x a81e a83s a84x abce abdx abes ac1e ac6x ac7e ac9s" ++
  " acax acbs acde acex ae2e ae4x afae b00x b01e b02s b04x b3ce b3dx b3ee b40s b41e b45x b47s b49x" ++
  " b4bs b4de b4ex b55e b58x b62e b64x b82e b83x bbee bbfs bc0e bc1s bc3x bc6s bc9x bcas bcde bcex" ++
  " bd7e bd8x c00e c01s c04e c05x c3ce c3dx c3ee c41s c45x c46e c49x c4ae c4ex c55e c57x c62e c64x" ++
  " c81e c82s c84x cbce cbdx cbes cbfe cc1s cc2e cc3s cc5x cc6e cc9x ccae ccex cd5e cd7x ce2e ce4x" ++
  " cf3s cf4x d00e d02s d04x d3be d3dx d3ee d3fs d41e d45x d46s d49x d4as d4de d4ep d4fx d57e d58x" ++
  " d62e d64x d81e d82s d84x dcae dcbx dcfe dd0s dd2e dd5x dd6e dd7x dd8s ddfe de0x df2s df4x e31e" ++
  " e32x e33s e34e e3bx e47e e4fx eb1e eb2x eb3s eb4e ebdx ec8e ecfx f18e f1ax f35e f36x f37e f38x" ++
  " f39e f3ax f3es f40x f71e f7fs f80e f85x f86e f88x f8de f98x f99e fbdx fc6e fc7x 102de 1031s" ++
  " 1032e 1038x 1039e 103bs 103de 103fx 1056s 1058e 105ax 105ee 1061x 1071e 1075x 1082e 1083x 1084s" ++
  " 1085e 1087x 108de 108ex 109de 109ex 1100L 1160V 11a8T 1200x 135de 1360x 1712e 1716x 1732e 1735x" ++
  " 1752e 1754x 1772e 1774x 17b4e 17b6s 17b7e 17bes 17c6e 17c7s 17c9e 17d4x 17dde 17dex 180be 180ec" ++
  " 180fe 1810x 1885e 1887x 18a9e 18aax 1920e 1923s 1927e 1929s 192cx 1930s 1932e 1933s 1939e 193cx" ++
  " 1a17e 1a19s 1a1be 1a1cx 1a55s 1a56e 1a57s 1a58e 1a5fx 1a60e 1a61x 1a62e 1a63x 1a65e 1a6ds 1a73e" ++
  " 1a7dx 1a7fe 1a80x 1ab0e 1acfx 1b00e 1b04s 1b05x 1b34e 1b3es 1b42e 1b45x 1b6be 1b74x 1b80e 1b82s" ++
  " 1b83x 1ba1s 1ba2e 1ba6s 1ba8e 1baex 1be6e 1be7s 1be8e 1beas 1bede 1bees 1befe 1bf4x 1c24s 1c2ce" ++
  " 1c34s 1c36e 1c38x 1cd0e 1cd3x 1cd4e 1ce1s 1ce2e 1ce9x 1cede 1ceex 1cf4e 1cf5x 1cf7s 1cf8e 1cfax" ++
  " 1dc0e 1e00x 200bc 200ce 200dz 200ec 2010x 2028c 202fx 2060c 2070x 20d0e 20f1x 2cefe 2cf2x 2d7fe" ++
  " 2d80x 2de0e 2e00x 302ae 3030x 3099e 309bx a66fe a673x a674e a67ex a69ee a6a0x a6f0e a6f2x a802e" ++
  " a803x a806e a807x a80be a80cx a823s a825e a827s a828x a82ce a82dx a880s a882x a8b4s a8c4e a8c6x" ++
  " a8e0e a8f2x a8ffe a900x a926e a92ex a947e a952s a953e a954x a960L a97dx a980e a983s a984x a9b3e" ++
  " a9b4s a9b6e a9bas a9bce a9bes a9c0e a9c1x a9e5e a9e6x aa29e aa2fs aa31e aa33s aa35e aa37x aa43e" ++
  " aa44x aa4ce aa4ds aa4ex aa7ce aa7dx aab0e aab1x aab2e aab5x aab7e aab9x aabee aac0x aac1e aac2x" ++
  " aaebs aaece aaees aaf0x aaf5s aaf6e aaf7x abe3s abe5e abe6s abe8e abe9s abebx abecs abede abeex" ++
  " d7b0V d7c7x d7cbT d7fcx fb1ee fb1fx fe00e fe10x fe20e fe30x feffc ff00x ff9ee ffa0x fff0c fffcx" ++
  " 101fde 101fex 102e0e 102e1x 10376e 1037bx 10a01e 10a04x 10a05e 10a07x 10a0ce 10a10x 10a38e" ++
  " 10a3bx 10a3fe 10a40x 10ae5e 10ae7x 10d24e 10d28x 10d69e 10d6ex 10eabe 10eadx 10efce 10f00x" ++
  " 10f46e 10f51x 10f82e 10f86x 11000s 11001e 11002s 11003x 11038e 11047x 11070e 11071x 11073e" ++
  " 11075x 1107fe 11082s 11083x 110b0s 110b3e 110b7s 110b9e 110bbx 110bdp 110bex 110c2e 110c3x" ++
  " 110cdp 110cex 11100e 11103x 11127e 1112cs 1112de 11135x 11145s 11147x 11173e 11174x 11180e" ++
  " 11182s 11183x 111b3s 111b6e 111bfs 111c0e 111c1x 111c2p 111c4x 111c9e 111cdx 111ces 111cfe" ++
  " 111d0x 1122cs 1122fe 11232s 11234e 11238x 1123ee 1123fx 11241e 11242x 112dfe 112e0s 112e3e" ++
  " 112ebx 11300e 11302s 11304x 1133be 1133dx 1133ee 1133fs 11340e 11341s 11345x 11347s 11349x" ++
  " 1134bs 1134de 1134ex 11357e 11358x 11362s 11364x 11366e 1136dx 11370e 11375x 113b8e 113b9x" ++
  " 113bbe 113c1x 113c2e 113c3x 113c5e 113c6x 113c7e 113cax 113cee 113d1x 113d2e 113d3x 113e1e" ++
  " 113e3x 11435s 11438e 11440s 11442e 11445s 11446e 11447x 1145ee 1145fx 114b0e 114b1s 114b3e" ++
  " 114b9s 114bae 114bbs 114bde 114bes 114bfe 114c1s 114c2e 114c4x 115afe 115b0s 115b2e 115b6x" ++
  " 115b8s 115bce 115bes 115bfe 115c1x 115dce 115dex 11630s 11633e 1163bs 1163de 1163es 1163fe" ++
  " 11641x 116abe 116acs 116ade 116aes 116b0e 116b8x 1171de 11720x 11722e 11726s 11727e 1172cx" ++
  " 1182cs 1182fe 11838s 11839e 1183bx 11930e 11931s 11936x 11937s 11939x 1193be 1193fp 11940s" ++
  " 11941p 11942s 11943e 11944x 119d1s 119d4e 119d8x 119dae 119dcs 119e0e 119e1x 119e4s 119e5x" ++
  " 11a01e 11a0bx 11a33e 11a39s 11a3ap 11a3be 11a3fx 11a47e 11a48x 11a51e 11a57s 11a59e 11a5cx" ++
  " 11a84p 11a8ae 11a97s 11a98e 11a9ax 11c2fs 11c30e 11c37x 11c38e 11c3es 11c3fe 11c40x 11c92e" ++
  " 11ca8x 11ca9s 11caae 11cb1s 11cb2e 11cb4s 11cb5e 11cb7x 11d31e 11d37x 11d3ae 11d3bx 11d3ce" ++
  " 11d3ex 11d3fe 11d46p 11d47e 11d48x 11d8as 11d8fx 11d90e 11d92x 11d93s 11d95e 11d96s 11d97e" ++
  " 11d98x 11ef3e 11ef5s 11ef7x 11f00e 11f02p 11f03s 11f04x 11f34s 11f36e 11f3bx 11f3es 11f40e" ++
  " 11f43x 11f5ae 11f5bx 13430c 13440e 13441x 13447e 13456x 1611ee 1612ax 1612de 16130x 16af0e" ++
  " 16af5x 16b30e 16b37x 16f4fe 16f50x 16f51s 16f88x 16f8fe 16f93x 16fe4e 16fe5x 16ff0e 16ff2x" ++
  " 1bc9de 1bc9fx 1bca0c 1bca4x 1cf00e 1cf2ex 1cf30e 1cf47x 1d165e 1d16ax 1d16de 1d173c 1d17be" ++
  " 1d183x 1d185e 1d18cx 1d1aae 1d1aex 1d242e 1d245x 1da00e 1da37x 1da3be 1da6dx 1da75e 1da76x" ++
  " 1da84e 1da85x 1da9be 1daa0x 1daa1e 1dab0x 1e000e 1e007x 1e008e 1e019x 1e01be 1e022x 1e023e" ++
  " 1e025x 1e026e 1e02bx 1e08fe 1e090x 1e130e 1e137x 1e2aee 1e2afx 1e2ece 1e2f0x 1e4ece 1e4f0x" ++
  " 1e5eee 1e5f0x 1e8d0e 1e8d7x 1e944e 1e94bx 1f1e6i 1f200x 1f3fbe 1f400x e0000c e0020e e0080c" ++
  " e0100e e01f0c e1000x"

/-- Boundaries of the Extended_Pictographic property. -/
def pictographicText : String :=
  "a9 aa ae af 203c 203d 2049 204a 2122 2123 2139 213a 2194 219a 21a9 21ab 231a 231c 2328 2329 2388" ++
  " 2389 23cf 23d0 23e9 23f4 23f8 23fb 24c2 24c3 25aa 25ac 25b6 25b7 25c0 25c1 25fb 25ff 2600 2606" ++
  " 2607 2613 2614 2686 2690 2706 2708 2713 2714 2715 2716 2717 271d 271e 2721 2722 2728 2729 2733" ++
  " 2735 2744 2745 2747 2748 274c 274d 274e 274f 2753 2756 2757 2758 2763 2768 2795 2798 27a1 27a2" ++
  " 27b0 27b1 27bf 27c0 2934 2936 2b05 2b08 2b1b 2b1d 2b50 2b51 2b55 2b56 3030 3031 303d 303e 3297" ++
  " 3298 3299 329a 1f000 1f100 1f10d 1f110 1f12f 1f130 1f16c 1f172 1f17e 1f180 1f18e 1f18f 1f191" ++
  " 1f19b 1f1ad 1f1e6 1f201 1f210 1f21a 1f21b 1f22f 1f230 1f232 1f23b 1f23c 1f240 1f249 1f3fb 1f400" ++
  " 1f53e 1f546 1f650 1f680 1f700 1f774 1f780 1f7d5 1f800 1f80c 1f810 1f848 1f850 1f85a 1f860 1f888" ++
  " 1f890 1f8ae 1f900 1f90c 1f93b 1f93c 1f946 1f947 1fb00 1fc00 1fffe"

/-- Ranges of the Indic_Conjunct_Break property. -/
def conjunctText : String :=
  "0x 300e 34fx 350e 370x 483e 488x 591e 5bex 5bfe 5c0x 5c1e 5c3x 5c4e 5c6x 5c7e 5c8x 610e 61bx" ++
  " 64be 660x 670e 671x 6d6e 6ddx 6dfe 6e5x 6e7e 6e9x 6eae 6eex 711e 712x 730e 74bx 7ebe 7f4x 7fde" ++
  " 7fex 816e 81ax 81be 824x 825e 828x 829e 82ex 859e 85cx 898e 8a0x 8cae 8e2x 8e3e 900x 915c 93ax" ++
  " 93ce 93dx 94dl 94ex 951e 955x 958c 960x 978c 980x 995c 9a9x 9aac 9b1x 9b2c 9b3x 9b6c 9bax 9bce" ++
  " 9bdx 9cdl 9cex 9dcc 9dex 9dfc 9e0x 9f0c 9f2x 9fee 9ffx a3ce a3dx a4de a4ex a95c aa9x aaac ab1x" ++
  " ab2c ab4x ab5c abax abce abdx acdl acex af9c afax b15c b29x b2ac b31x b32c b34x b35c b3ax b3ce" ++
  " b3dx b4dl b4ex b5cc b5ex b5fc b60x b71c b72x bcde bcex c15c c29x c2ac c3ax c3ce c3dx c4dl c4ex" ++
  " c55e c57x c58c c5bx cbce cbdx ccde ccex d15c d3be d3dx d4dl d4ex dcae dcbx e38e e3bx e48e e4cx" ++
  " eb8e ebbx ec8e eccx f18e f1ax f35e f36x f37e f38x f39e f3ax f71e f73x f74e f75x f7ae f7ex f80e" ++
  " f81x f82e f85x f86e f88x fc6e fc7x 1037e 1038x 1039e 103bx 108de 108ex 135de 1360x 1714e 1716x" ++
  " 1734e 1735x 17d2e 17d3x 17dde 17dex 18a9e 18aax 1939e 193cx 1a17e 1a19x 1a60e 1a61x 1a75e 1a7dx" ++
  " 1a7fe 1a80x 1ab0e 1abex 1abfe 1acfx 1b34e 1b35x 1b44e 1b45x 1b6be 1b74x 1baae 1bacx 1be6e 1be7x" ++
  " 1bf2e 1bf4x 1c37e 1c38x 1cd0e 1cd3x 1cd4e 1ce1x 1ce2e 1ce9x 1cede 1ceex 1cf4e 1cf5x 1cf8e 1cfax" ++
  " 1dc0e 1e00x 200de 200ex 20d0e 20ddx 20e1e 20e2x 20e5e 20f1x 2cefe 2cf2x 2d7fe 2d80x 2de0e 2e00x" ++
  " 302ae 3030x 3099e 309bx a66fe a670x a674e a67ex a69ee a6a0x a6f0e a6f2x a806e a807x a82ce a82dx" ++
  " a8c4e a8c5x a8e0e a8f2x a92be a92ex a953e a954x a9b3e a9b4x a9c0e a9c1x aab0e aab1x aab2e aab5x" ++
  " aab7e aab9x aabee aac0x aac1e aac2x aaf6e aaf7x abede abeex fb1ee fb1fx fe20e fe30x 101fde" ++
  " 101fex 102e0e 102e1x 10376e 1037bx 10a0de 10a0ex 10a0fe 10a10x 10a38e 10a3bx 10a3fe 10a40x" ++
  " 10ae5e 10ae7x 10d24e 10d28x 10eabe 10eadx 10efde 10f00x 10f46e 10f51x 10f82e 10f86x 11046e" ++
  " 11047x 11070e 11071x 1107fe 11080x 110b9e 110bbx 11100e 11103x 11133e 11135x 11173e 11174x" ++
  " 111c0e 111c1x 111cae 111cbx 11235e 11237x 112e9e 112ebx 1133be 1133dx 1134de 1134ex 11366e" ++
  " 1136dx 11370e 11375x 11442e 11443x 11446e 11447x 1145ee 1145fx 114c2e 114c4x 115bfe 115c1x" ++
  " 1163fe 11640x 116b6e 116b8x 1172be 1172cx 11839e 1183bx 1193de 1193fx 11943e 11944x 119e0e" ++
  " 119e1x 11a34e 11a35x 11a47e 11a48x 11a99e 11a9ax 11c3fe 11c40x 11d42e 11d43x 11d44e 11d46x" ++
  " 11d97e 11d98x 11f41e 11f43x 16af0e 16af5x 16b30e 16b37x 16ff0e 16ff2x 1bc9ee 1bc9fx 1d165e" ++
  " 1d16ax 1d16de 1d173x 1d17be 1d183x 1d185e 1d18cx 1d1aae 1d1aex 1d242e 1d245x 1e000e 1e007x" ++
  " 1e008e 1e019x 1e01be 1e022x 1e023e 1e025x 1e026e 1e02bx 1e08fe 1e090x 1e130e 1e137x 1e2aee" ++
  " 1e2afx 1e2ece 1e2f0x 1e4ece 1e4f0x 1e8d0e 1e8d7x 1e944e 1e94bx"

/-- Boundaries of the Emoji_Presentation property. -/
def emojiText : String :=
  "231a 231c 23e9 23ed 23f0 23f1 23f3 23f4 25fd 25ff 2614 2616 2648 2654 267f 2680 2693 2694 26a1" ++
  " 26a2 26aa 26ac 26bd 26bf 26c4 26c6 26ce 26cf 26d4 26d5 26ea 26eb 26f2 26f4 26f5 26f6 26fa 26fb" ++
  " 26fd 26fe 2705 2706 270a 270c 2728 2729 274c 274d 274e 274f 2753 2756 2757 2758 2795 2798 27b0" ++
  " 27b1 27bf 27c0 2b1b 2b1d 2b50 2b51 2b55 2b56 1f004 1f005 1f0cf 1f0d0 1f18e 1f18f 1f191 1f19b" ++
  " 1f1e6 1f200 1f201 1f202 1f21a 1f21b 1f22f 1f230 1f232 1f237 1f238 1f23b 1f250 1f252 1f300 1f321" ++
  " 1f32d 1f336 1f337 1f37d 1f37e 1f394 1f3a0 1f3cb 1f3cf 1f3d4 1f3e0 1f3f1 1f3f4 1f3f5 1f3f8 1f43f" ++
  " 1f440 1f441 1f442 1f4fd 1f4ff 1f53e 1f54b 1f54f 1f550 1f568 1f57a 1f57b 1f595 1f597 1f5a4 1f5a5" ++
  " 1f5fb 1f650 1f680 1f6c6 1f6cc 1f6cd 1f6d0 1f6d3 1f6d5 1f6d8 1f6dc 1f6e0 1f6eb 1f6ed 1f6f4 1f6fd" ++
  " 1f7e0 1f7ec 1f7f0 1f7f1 1f90c 1f93b 1f93c 1f946 1f947 1fa00 1fa70 1fa7d 1fa80 1fa8a 1fa8f 1fac7" ++
  " 1face 1fadd 1fadf 1faea 1faf0 1faf9"

/-- Boundaries of the Emoji_Modifier_Base property. -/
def modifierBaseText : String :=
  "261d 261e 26f9 26fa 270a 270e 1f385 1f386 1f3c2 1f3c5 1f3c7 1f3c8 1f3ca 1f3cd 1f442 1f444 1f446" ++
  " 1f451 1f466 1f479 1f47c 1f47d 1f481 1f484 1f485 1f488 1f48f 1f490 1f491 1f492 1f4aa 1f4ab 1f574" ++
  " 1f576 1f57a 1f57b 1f590 1f591 1f595 1f597 1f645 1f648 1f64b 1f650 1f6a3 1f6a4 1f6b4 1f6b7 1f6c0" ++
  " 1f6c1 1f6cc 1f6cd 1f90c 1f90d 1f90f 1f910 1f918 1f920 1f926 1f927 1f930 1f93a 1f93c 1f93f 1f977" ++
  " 1f978 1f9b5 1f9b7 1f9b8 1f9ba 1f9bb 1f9bc 1f9cd 1f9d0 1f9d1 1f9de 1fac3 1fac6 1faf0 1faf9"

/-- Boundaries of the characters that start an emoji variation sequence. -/
def emojiVariationText : String :=
  "23 24 2a 2b 30 3a a9 aa ae af 203c 203d 2049 204a 2122 2123 2139 213a 2194 219a 21a9 21ab 231a" ++
  " 231c 2328 2329 23cf 23d0 23e9 23f4 23f8 23fb 24c2 24c3 25aa 25ac 25b6 25b7 25c0 25c1 25fb 25ff" ++
  " 2600 2605 260e 260f 2611 2612 2614 2616 2618 2619 261d 261e 2620 2621 2622 2624 2626 2627 262a" ++
  " 262b 262e 2630 2638 263b 2640 2641 2642 2643 2648 2654 265f 2661 2663 2664 2665 2667 2668 2669" ++
  " 267b 267c 267e 2680 2692 2698 2699 269a 269b 269d 26a0 26a2 26a7 26a8 26aa 26ac 26b0 26b2 26bd" ++
  " 26bf 26c4 26c6 26c8 26c9 26cf 26d0 26d1 26d2 26d3 26d5 26e9 26eb 26f0 26f6 26f7 26fb 26fd 26fe" ++
  " 2702 2703 2708 270a 270c 270e 270f 2710 2712 2713 2714 2715 2716 2717 271d 271e 2721 2722 2733" ++
  " 2735 2744 2745 2747 2748 2753 2754 2757 2758 2763 2765 27a1 27a2 2934 2936 2b05 2b08 2b1b 2b1d" ++
  " 2b50 2b51 2b55 2b56 3030 3031 303d 303e 3297 3298 3299 329a 1f004 1f005 1f170 1f172 1f17e 1f180" ++
  " 1f202 1f203 1f21a 1f21b 1f22f 1f230 1f237 1f238 1f30d 1f310 1f315 1f316 1f31c 1f31d 1f321 1f322" ++
  " 1f324 1f32d 1f336 1f337 1f378 1f379 1f37d 1f37e 1f393 1f394 1f396 1f398 1f399 1f39c 1f39e 1f3a0" ++
  " 1f3a7 1f3a8 1f3ac 1f3af 1f3c2 1f3c3 1f3c4 1f3c5 1f3c6 1f3c7 1f3ca 1f3cf 1f3d4 1f3e1 1f3ed 1f3ee" ++
  " 1f3f3 1f3f4 1f3f5 1f3f6 1f3f7 1f3f8 1f408 1f409 1f415 1f416 1f41f 1f420 1f426 1f427 1f43f 1f440" ++
  " 1f441 1f443 1f446 1f44a 1f44d 1f44f 1f453 1f454 1f46a 1f46b 1f47d 1f47e 1f4a3 1f4a4 1f4b0 1f4b1" ++
  " 1f4b3 1f4b4 1f4b9 1f4ba 1f4bb 1f4bc 1f4bf 1f4c0 1f4c8 1f4cc 1f4da 1f4db 1f4df 1f4e0 1f4e4 1f4e7" ++
  " 1f4ea 1f4ee 1f4f7 1f4f8 1f4f9 1f4fc 1f4fd 1f4fe 1f508 1f509 1f50d 1f50e 1f512 1f514 1f549 1f54b" ++
  " 1f550 1f568 1f56f 1f571 1f573 1f57a 1f587 1f588 1f58a 1f58e 1f590 1f591 1f5a5 1f5a6 1f5a8 1f5a9" ++
  " 1f5b1 1f5b3 1f5bc 1f5bd 1f5c2 1f5c5 1f5d1 1f5d4 1f5dc 1f5df 1f5e1 1f5e2 1f5e3 1f5e4 1f5e8 1f5e9" ++
  " 1f5ef 1f5f0 1f5f3 1f5f4 1f5fa 1f5fb 1f610 1f611 1f687 1f688 1f68d 1f68e 1f691 1f692 1f694 1f695" ++
  " 1f698 1f699 1f6ad 1f6ae 1f6b2 1f6b3 1f6b9 1f6bb 1f6bc 1f6bd 1f6cb 1f6cc 1f6cd 1f6d0 1f6e0 1f6e6" ++
  " 1f6e9 1f6ea 1f6f0 1f6f1 1f6f3 1f6f4"

end Colloquy.Screen

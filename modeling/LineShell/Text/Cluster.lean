import LineShell.Text.Alphanumeric

/-!
# Clusters of characters

What a reader takes for one character may be several: a letter with its marks, a syllable of Hangul
letters, two letters of a flag, pictographs that are joined to one.  The Unicode standard gives each
character a class and says which neighbours stay together; `clusters` divides a text by its rules.
-/

namespace LineShell.Text

/-! ### Classes of characters -/

/-- Characters that stay together with the one after them. -/
def clusterInitial : CodePointSet := .ofText
  "600 606 6dd 6de 70f 710 890 892 8e2 8e3 d4e d4f 110bd 110be 110cd 110ce 111c2 111c4 113d1 113d2
   1193f 11940 11941 11942 11a3a 11a3b 11a84 11a8a 11d46 11d47 11f02 11f03"

/-- Marks with a width of their own that stand alone. -/
def looseMarks : CodePointSet := .ofText
  "102b 102d 1038 1039 1062 1065 1067 106e 1083 1084 1087 108d 108f 1090 109a 109d 1a61 1a62 1a63
   1a65 aa7b aa7c aa7d aa7e 11720 11722"

/-- Code points that are to be ignored when they are shown. -/
def ignorableTable : CodePointSet := .ofText
  "ad ae 34f 350 61c 61d 115f 1161 17b4 17b6 180b 1810 200b 2010 202a 202f 2060 2070 3164 3165
   fe00 fe10 feff ff00 ffa0 ffa1 fff0 fff9 1bca0 1bca4 1d173 1d17b e0000 e1000"

/-- Signs that spell out a tag and are not format characters in this respect. -/
def tagSigns : CodePointSet := .ofRange 0xE0020 0xE007F

/-- Pictographs, which a joiner joins to one. -/
def pictographs : CodePointSet := .ofText
  "a9 aa ae af 203c 203d 2049 204a 2122 2123 2139 213a 2194 219a 21a9 21ab 231a 231c 2328 2329
   23cf 23d0 23e9 23f4 23f8 23fb 24c2 24c3 25aa 25ac 25b6 25b7 25c0 25c1 25fb 25ff 2600 2605 260e
   260f 2611 2612 2614 2616 2618 2619 261d 261e 2620 2621 2622 2624 2626 2627 262a 262b 262e 2630
   2638 263b 2640 2641 2642 2643 2648 2654 265f 2661 2663 2664 2665 2667 2668 2669 267b 267c 267e
   2680 2692 2698 2699 269a 269b 269d 26a0 26a2 26a7 26a8 26aa 26ac 26b0 26b2 26bd 26bf 26c4 26c6
   26c8 26c9 26ce 26d0 26d1 26d2 26d3 26d5 26e9 26eb 26f0 26f6 26f7 26fb 26fd 26fe 2702 2703 2705
   2706 2708 270e 270f 2710 2712 2713 2714 2715 2716 2717 271d 271e 2721 2722 2728 2729 2733 2735
   2744 2745 2747 2748 274c 274d 274e 274f 2753 2756 2757 2758 2763 2765 2795 2798 27a1 27a2 27b0
   27b1 27bf 27c0 2934 2936 2b05 2b08 2b1b 2b1d 2b50 2b51 2b55 2b56 3030 3031 303d 303e 3297 3298
   3299 329a 1f004 1f005 1f02c 1f030 1f094 1f0a0 1f0af 1f0b1 1f0c0 1f0c1 1f0cf 1f0d1 1f0f6 1f100
   1f170 1f172 1f17e 1f180 1f18e 1f18f 1f191 1f19b 1f1ae 1f1e6 1f201 1f210 1f21a 1f21b 1f22f 1f230
   1f232 1f23b 1f23c 1f240 1f249 1f260 1f266 1f322 1f324 1f394 1f396 1f398 1f399 1f39c 1f39e 1f3f1
   1f3f3 1f3f6 1f3f7 1f3fb 1f400 1f4fe 1f4ff 1f53e 1f549 1f54f 1f550 1f568 1f56f 1f571 1f573 1f57b
   1f587 1f588 1f58a 1f58e 1f590 1f591 1f595 1f597 1f5a4 1f5a6 1f5a8 1f5a9 1f5b1 1f5b3 1f5bc 1f5bd
   1f5c2 1f5c5 1f5d1 1f5d4 1f5dc 1f5df 1f5e1 1f5e2 1f5e3 1f5e4 1f5e8 1f5e9 1f5ef 1f5f0 1f5f3 1f5f4
   1f5fa 1f650 1f680 1f6c6 1f6cb 1f6d3 1f6d5 1f6e6 1f6e9 1f6ea 1f6eb 1f6f1 1f6f3 1f700 1f7da 1f800
   1f80c 1f810 1f848 1f850 1f85a 1f860 1f888 1f890 1f8ae 1f8b0 1f8bc 1f8c0 1f8c2 1f8d0 1f8d9 1f900
   1f90c 1f93b 1f93c 1f946 1f947 1fa00 1fa58 1fa60 1fa6e 1fb00 1fc00 1fffe"

/-- Consonants that a linking sign binds to the one before. -/
def conjunctConsonants : CodePointSet := .ofText
  "915 93a 958 960 978 980 995 9a9 9aa 9b1 9b2 9b3 9b6 9ba 9dc 9de 9df 9e0 9f0 9f2 a95 aa9 aaa ab1
   ab2 ab4 ab5 aba af9 afa b15 b29 b2a b31 b32 b34 b35 b3a b5c b5e b5f b60 b71 b72 c15 c29 c2a c3a
   c58 c5b d15 d3b 1000 102b 103f 1040 1050 1056 105a 105e 1061 1062 1065 1067 106e 1071 1075 1082
   108e 108f 1780 17b4 1a20 1a55 1b0b 1b0d 1b13 1b34 1b45 1b4d 1b83 1ba1 1bae 1bb0 1bbb 1bbe a989
   a98c a98f a9b3 a9e0 a9e5 a9e7 a9f0 a9fa a9ff aa60 aa70 aa71 aa74 aa7a aa7b aa7e aa80 aae0 aaeb
   abc0 abdb 10a00 10a01 10a10 10a14 10a15 10a18 10a19 10a36 11103 11127 11144 11145 11147 11148
   11380 1138a 1138b 1138c 1138e 1138f 11390 113b6 11900 11907 11909 1190a 1190c 11914 11915 11917
   11918 11930 11a00 11a01 11a0b 11a33 11a50 11a51 11a5c 11a84 11f04 11f11 11f12 11f34"

/-- Signs that link the consonants around them. -/
def conjunctLinkers : CodePointSet := .ofText
  "94d 94e 9cd 9ce acd ace b4d b4e c4d c4e d4d d4e 1039 103a 17d2 17d3 1a60 1a61 1b44 1b45 1bab
   1bac a9c0 a9c1 aaf6 aaf7 10a3f 10a40 11133 11134 113d0 113d1 1193e 1193f 11a47 11a48 11a99
   11a9a 11f42 11f43"

namespace Edition

/-- Characters that always stand alone: controls, separators of lines and paragraphs, and what is
ignored when it is shown. -/
def clusterControl (edition : Edition) (ignorable : CodePointSet) : CodePointSet :=
  let shown := CodePointSet.unions [joinControl, clusterInitial, tagSigns]
  let format := (edition.inCategories ["Cf"]).diff shown
  .unions [edition.inCategories ["Cc", "Zl", "Zp"], format,
    (edition.inCategories ["Cn"]).inter ignorable]

/-- The tones of skin that a pictograph may be given. -/
def skinTones : CodePointSet := .ofRange 0x1F3FB 0x1F3FF

/-- Characters that go with the one before them. -/
def clusterExtending (edition : Edition) : CodePointSet := edition.extending.union skinTones

/-- Marks with a width of their own that go with the character before them. -/
def clusterSpacing (edition : Edition) : CodePointSet :=
  (((edition.inCategories ["Mc"]).diff edition.extending).diff looseMarks).union
    (.ofCodes [0xE33, 0xEB3])

end Edition

/-- The letters of which a pair is a flag. -/
def flagLetters : CodePointSet := .ofRange 0x1F1E6 0x1F1FF

/-- Hangul letters with which a syllable begins. -/
def syllableInitials : CodePointSet := .ofRanges [(0x1100, 0x115F), (0xA960, 0xA97C)]

/-- Vowels of Hangul syllables, and what behaves as they do. -/
def syllableVowels : CodePointSet :=
  .ofRanges [(0x1160, 0x11A7), (0xD7B0, 0xD7C6), (0x16D63, 0x16D63), (0x16D67, 0x16D6A)]

/-- Hangul letters with which a syllable ends. -/
def syllableFinals : CodePointSet := .ofRanges [(0x11A8, 0x11FF), (0xD7CB, 0xD7FB)]

/-- What a character does to the division of a text. -/
inductive ClusterClass
  | carriageReturn
  | lineFeed
  | control
  | extending
  | joiner
  | spacing
  | initial
  | flagLetter
  | pictograph
  | consonant
  | syllableInitial
  | syllableVowel
  | syllableFinal
  | openSyllable
  | closedSyllable
  | other
  deriving DecidableEq, Repr

/-- Characters of the latest edition that always stand alone. -/
def controlTable : CodePointSet := Edition.latest.clusterControl ignorableTable

/-- Characters of the latest edition that go with the one before them. -/
def extendingTable : CodePointSet := Edition.latest.clusterExtending

/-- Marks of the latest edition that have a width of their own. -/
def spacingTable : CodePointSet := Edition.latest.clusterSpacing

/-- The class of a character. -/
def clusterClass (c : Char) : ClusterClass :=
  let n := c.toNat
  if c = '\r' then .carriageReturn
  else if c = '\n' then .lineFeed
  else if n = 0x200D then .joiner
  else if controlTable.contains c then .control
  else if extendingTable.contains c then .extending
  else if spacingTable.contains c then .spacing
  else if clusterInitial.contains c then if n = 0x11A3A then .other else .initial
  else if flagLetters.contains c then .flagLetter
  else if pictographs.contains c then .pictograph
  else if conjunctConsonants.contains c then .consonant
  else if syllableInitials.contains c then .syllableInitial
  else if syllableVowels.contains c then .syllableVowel
  else if syllableFinals.contains c then .syllableFinal
  else if 0xAC00 ≤ n ∧ n ≤ 0xD7A3 then
    if (n - 0xAC00) % 28 = 0 then .openSyllable else .closedSyllable
  else .other

/-! ### Division of a text -/

/-- What a text ends with, as far as it bears on what follows. -/
structure ClusterEnd where
  /-- The class of the last character. -/
  last : ClusterClass
  /-- Whether an odd number of flag letters ends the text. -/
  oddFlagLetters : Bool
  /-- Whether a pictograph ends the text, with nothing after it but what extends it. -/
  pictograph : Bool
  /-- Whether such a pictograph is followed by a joiner. -/
  joinedPictograph : Bool
  /-- Whether a consonant ends the text, with nothing after it but what extends it. -/
  consonant : Bool
  /-- Whether a sign that links consonants came after it. -/
  linked : Bool
  deriving DecidableEq, Repr

namespace ClusterEnd

/-- The end of a text of one character. -/
def ofClass (last : ClusterClass) : ClusterEnd where
  last
  oddFlagLetters := last == .flagLetter
  pictograph := last == .pictograph
  joinedPictograph := false
  consonant := last == .consonant
  linked := false

/-- The end of a text after one more character. -/
def push (tail : ClusterEnd) (c : Char) : ClusterEnd :=
  let last := clusterClass c
  let start := ofClass last
  let bridges := (last == .extending || last == .joiner) && c.toNat != 0x200C
  { start with
    oddFlagLetters := last == .flagLetter && !tail.oddFlagLetters
    pictograph := start.pictograph || (last == .extending && tail.pictograph)
    joinedPictograph := last == .joiner && tail.pictograph
    consonant := start.consonant || (bridges && tail.consonant)
    linked := bridges && tail.consonant && (tail.linked || conjunctLinkers.contains c) }

/-- Whether a character of the given class stays together with the end of the text. -/
def joins (tail : ClusterEnd) (next : ClusterClass) : Bool :=
  let isControl (k : ClusterClass) : Bool := k == .control || k == .carriageReturn || k == .lineFeed
  if tail.last == .carriageReturn && next == .lineFeed then true
  else if isControl tail.last || isControl next then false
  else
    match tail.last, next with
    | .syllableInitial, .syllableInitial => true
    | .syllableInitial, .syllableVowel => true
    | .syllableInitial, .openSyllable => true
    | .syllableInitial, .closedSyllable => true
    | .openSyllable, .syllableVowel => true
    | .openSyllable, .syllableFinal => true
    | .syllableVowel, .syllableVowel => true
    | .syllableVowel, .syllableFinal => true
    | .closedSyllable, .syllableFinal => true
    | .syllableFinal, .syllableFinal => true
    | _, .extending => true
    | _, .joiner => true
    | _, .spacing => true
    | .initial, _ => true
    | _, .consonant => tail.linked
    | _, .pictograph => tail.joinedPictograph
    | _, .flagLetter => tail.oddFlagLetters
    | _, _ => false

end ClusterEnd

/-- The clusters of what follows, `pending` being the one that is still growing, its last character
first. -/
def clustersFrom (tail : ClusterEnd) (pending : List Char) : List Char → List (List Char)
  | [] => [pending.reverse]
  | c :: rest =>
    if tail.joins (clusterClass c) then clustersFrom (tail.push c) (c :: pending) rest
    else pending.reverse :: clustersFrom (tail.push c) [c] rest

/-- The clusters of a text. -/
def clusters : List Char → List (List Char)
  | [] => []
  | c :: rest => clustersFrom (.ofClass (clusterClass c)) [c] rest

end LineShell.Text

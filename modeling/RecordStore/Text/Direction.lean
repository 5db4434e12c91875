/-
RecordStore.Text.Direction -- which way a character is written

Letters are written from left to right or from right to left.  Numbers and signs
follow what is around them, each class in its own way.  The tables list every
character that is neither a nonspacing mark nor a letter written from left to
right, and the few marks that count as such letters.  Their ranges run over code
points that are not assigned.
-/
import RecordStore.Text.Mark

namespace RecordStore.Text

set_option autoImplicit false

inductive Direction
  | leftToRight
  | rightToLeft
  | arabicLetter
  | europeanNumber
  | europeanSeparator
  | europeanTerminator
  | arabicNumber
  | commonSeparator
  | nonspacingMark
  | boundaryNeutral
  | otherNeutral
  /-- Space, ends of lines and paragraphs, and what switches direction. -/
  | spacing
  deriving DecidableEq

/-- Letters written from right to left, and the numbers that go with them. -/
def Direction.isRightToLeft : Direction → Bool
  | .rightToLeft | .arabicLetter | .arabicNumber => true
  | _ => false

/-- The characters of each class. -/
def directionTables : List (Direction × Table) := [
  (.leftToRight, .read "cbf cc6 11a07 11a08 11c3f"),
  (.rightToLeft, .read "
    5be 5c0 5c3 5c6 5d0-5f4 7c0-7ea 7f4-7f5 7fa 7fe-815 81a 824 828 830-858 85e 200f fb1d fb1f-fb28
    fb2a-fb4f 10800-1091b 10920-10a00 10a10-10a35 10a40-10ae4 10aeb-10b35 10b40-10cff 10d4a-10d65
    10d6f-10d8f 10e80-10ea9 10ead-10eb1 10f00-10f27 10f70-10f81 10f86-10ff6 1e800-1e8cf 1e900-1e943
    1e94b-1e95f"),
  (.arabicLetter, .read "
    608 60b 60d 61b-64a 66d-66f 671-6d5 6e5-6e6 6ee-6ef 6fa-710 712-72f 74d-7a5 7b1 860-88f 8a0-8c9
    fb50-fbc2 fbd3-fd3d fd50-fd8f fd92-fdc7 fdf0-fdfc fe70-fefc 10d00-10d23 10ec2-10ec7 10f30-10f45
    10f51-10f59 1ec71-1eebb"),
  (.europeanNumber, .read "
    30-39 b2-b3 b9 6f0-6f9 2070 2074-2079 2080-2089 2488-249b ff10-ff19 102e1-102fb 1ccf0-1ccf9
    1d7ce-1d7ff 1f100-1f10a 1fbf0-1fbf9"),
  (.europeanSeparator, .read "2b 2d 207a-207b 208a-208b 2212 fb29 fe62-fe63 ff0b ff0d"),
  (.europeanTerminator, .read "
    23-25 a2-a5 b0-b1 58f 609-60a 66a 9f2-9f3 9fb af1 bf9 e3f 17db 2030-2034 20a0-20c1 212e 2213
    a838-a839 fe5f fe69-fe6a ff03-ff05 ffe0-ffe1 ffe5-ffe6 11fdd-11fe0 1e2ff"),
  (.arabicNumber, .read "600-605 660-669 66b-66c 6dd 890-891 8e2 10d30-10d49 10e60-10e7e"),
  (.commonSeparator, .read "2c 2e-2f 3a a0 60c 202f 2044 fe50 fe52 fe55 ff0c ff0e-ff0f ff1a"),
  (.boundaryNeutral, .read "
    0-8 e-1b 7f-84 86-9f ad 180e 200b-200d 2060-2064 206a-206f feff 1bca0-1bca3 1d173-1d17a
    e0001-e007f"),
  (.otherNeutral, .read "
    21-22 26-2a 3b-40 5b-60 7b-7e a1 a6-a9 ab-ac ae-af b4 b6-b8 bb-bf d7 f7 2b9-2ba 2c2-2cf 2d2-2df
    2e5-2ed 2ef-2ff 374-375 37e 384-385 387 3f6 58a-58e 606-607 60e-60f 6de 6e9 7f6-7f9 bf3-bf8 bfa
    c78-c7e f3a-f3d 1390-1399 1400 169b-169c 17f0-180a 1940-1945 19de-19ff 1fbd 1fbf-1fc1 1fcd-1fcf
    1fdd-1fdf 1fed-1fef 1ffd-1ffe 2010-2027 2035-2043 2045-205e 207c-207e 208c-208e 2100-2101
    2103-2106 2108-2109 2114 2116-2118 211e-2123 2125 2127 2129 213a-213b 2140-2144 214a-214d
    2150-215f 2189-2211 2214-2335 237b-2394 2396-2487 24ea-26ab 26ad-27ff 2900-2bff 2ce5-2cea
    2cf9-2cff 2e00-2fff 3001-3004 3008-3020 3030 3036-3037 303d-303f 309b-309c 30a0 30fb 31c0-31ef
    321d-321e 3250-325f 327c-327e 32b1-32bf 32cc-32cf 3377-337a 33de-33df 33ff 4dc0-4dff a490-a4c6
    a60d-a60f a673 a67e-a67f a700-a721 a788 a828-a82b a874-a877 ab6a-ab6b fbc3-fbd2 fd3e-fd4f
    fd90-fd91 fdc8-fdcf fdfd-fdff fe10-fe19 fe30-fe4f fe51 fe54 fe56-fe5e fe60-fe61 fe64-fe68 fe6b
    ff01-ff02 ff06-ff0a ff1b-ff20 ff3b-ff40 ff5b-ff65 ffe2-ffe4 ffe8-fffd 10101 10140-1018c
    10190-101a0 1091f 10b39-10b3f 10d6e 10ed0-10ed8 11052-11065 11660-1166c 11fd5-11fdc 11fe1-11ff1
    16fe2 1cc00-1ccd5 1ccfa-1cef0 1d1e9-1d241 1d245 1d300-1d356 1d6c1 1d6db 1d6fb 1d715 1d735 1d74f
    1d76f 1d789 1d7a9 1d7c3 1eef0-1f0f5 1f10b-1f10f 1f12f 1f16a-1f16f 1f1ad 1f260-1fbef 1fbfa"),
  (.spacing, .read "9-d 1c-20 85 1680 2000-200a 2028-202e 205f 2066-2069 3000")]

def direction (c : Char) : Direction :=
  match directionTables.find? fun entry => entry.2.holds c with
  | some (d, _) => d
  | none => if isNonspacing c then .nonspacingMark else .leftToRight

end RecordStore.Text

import LineShell.Text.CodePoints

/-!
# Ages

The edition of the standard in which a code point was assigned.  An edition is written by three
digits: `011` is edition 1.1 and `160` is edition 16.0; `new` stands for what came later or never.
-/

namespace LineShell.Text

/-- The editions that assigned the code points. -/
def ages : Partition := .ofText 3
  "0111f6 0304 0111e 0308 0321 0401 03012 0403 041b 050e 01159 0305 0402 0112f 0301 011a 0305
   04011 01146 0309 0321 0408 0415 0403 0112 0301 032d 0514 0112 0512 new2 0111 0503 0111 0701
   new4 0117 new1 0111 new1 01114 new1 0112c 0511 0117 0301 0322 0111 0301 0111 0301 0111 0301
   0111 0301 01112 0312 0321 0405 0414 0301 011c 0301 01142 0301 011c 0301 01129 0511 0302 0322
   0304 01135 0322 0112 0322 0112 0322 0501 0111c 0302 0118 0412 0112 0506 03210 0504 05110 0522
   0602 0708 new1 01126 new2 0117 1101 01127 1101 0111 0301 new2 0702 0611 new1 02011 0411 020d
   011a 0501 0119 0201 0413 new8 0111b new4 1101 0115 newb 0404 0611 0701 0515 0411 0111 0409 0515
   0111 0631 1401 0411 0111 0601 0111a 0515 01113 0303 0403 0416 0601 011e 0322 01148 0302 0115
   0301 011f 0301 0111e 0402 011a 0305 0401 030e new1 0301e 0403 0301b new2 0403 0411e 05112 03031
   0321 newe 0503b new2 1103 0522e new2 052f new1 0601c new2 0601 new1 100b new5 1401f new1 1402
   new5 1601 1408 0611 0701 061b 0706 0802 1401 0908 130a 140b 1101 090f 0801 0611b 0701 0521 0113
   0401 01135 0602 01112 0521 0601 0115 0521 0602 01119 0512 0605 0701 0522 0502 0411 0502 0701
   0113 new1 0118 new2 0112 new2 01116 new1 0117 new1 0111 new3 0114 new2 0111 0401 0117 new2 0112
   new2 0113 0411 new8 0111 new4 0112 new1 0115 new2 01115 0521 1002 1101 new2 0401 0111 0401 new1
   0116 new4 0112 new2 01116 new1 0117 new1 0112 new1 0112 new1 0112 new2 0111 new1 0115 new4 0112
   new2 0113 new3 0511 new7 0114 new1 0111 new7 011f 0511 1101 newa 0113 new1 0117 0401 0111 new1
   0113 new1 01116 new1 0117 new1 0112 new1 0115 new2 011a new1 0113 new1 0113 new2 0111 newf 0111
   0403 new2 011a 0611 0401 new7 0801 1006 new1 0113 new1 0118 new2 0112 new2 01116 new1 0117 new1
   0112 new1 0401 0114 new2 0118 0511 new2 0112 new2 0113 new7 1301 0112 new4 0112 new1 0113 0512
   new2 011b 0401 0606 newa 0112 new1 0116 new3 0113 new1 0114 new3 0112 new1 0111 new1 0112 new3
   0112 new3 0113 new3 0118 0411 0113 new4 0115 new3 0113 new1 0114 new2 0511 new6 0111 newe 0411
   011c 0408 new5 0701 0113 1101 0118 new1 0113 new1 01117 new1 011a 0701 0115 new2 1401 0511 0117
   new1 0113 new1 0114 new7 0112 new1 0512 0801 new2 1401 new2 0112 0512 new2 011a new7 1201 0518
   0901 0701 0112 1101 0118 new1 0113 new1 01117 new1 011a new1 0115 new2 0402 0117 new1 0113 new1
   0114 new7 0112 new6 1401 0111 new1 0112 0502 new2 011a new1 0502 1501 newc 1001 0701 0112 1301
   0118 new1 0113 new1 01117 0601 01110 0601 1002 0511 0116 0511 new1 0113 new1 0114 0601 0901
   new4 0903 0111 0907 0801 0112 0512 new2 011a 0516 0903 0517 new1 1301 0302 new1 03012 new3
   03018 new1 0309 new1 0301 new2 0307 new3 0301 new4 0306 new1 0301 new1 0308 new6 070a new2 0303
   newc 0113a new4 0111d new25 0112 new1 0111 new1 1201 0112 1201 0111 new1 1201 0111 1206 0114
   1201 0117 1201 0113 new1 0111 new1 0111 1202 0112 1201 011d 1201 0113 new2 0115 new1 0111 new1
   0116 1501 new1 011a new2 0112 0612 new20 02048 new1 02021 0301 0512 new4 0201b 0604 0206 0301
   0201 new1 02015 0303 0207 0301 0201 0303 new1 030f new1 0511 0301 0412 0513 0524 0602 new25
   03022 0511 0305 0511 0302 0511 0307 0513 0304 0516 0301a 05140 0524 0512 01126 new1 0611 new5
   0611 new2 01127 0322 0412 0111 0411 0613 0115a 0525 01144 0525 01152 0526 0307 0411 0303f 0411
   0301 new1 0304 new2 0307 new1 0301 new1 0304 new2 03027 0411 0301 new1 0304 new2 0301f 0411
   0301 new1 0304 new2 0307 new1 0301 new1 0304 new2 0307 0411 0307 new1 03017 0411 0301f 0411
   0301 new1 0304 new2 0307 0411 03027 0411 03013 new2 0602 0412 0301c new3 0411a new6 03055 0801
   new2 0806 new2 0521 030276 0529 0301d new3 03051 0708 new7 032d 1401 0327 1401 new9 1401 03217
   new9 03214 newc 032d new1 0323 new1 0322 newc 0305d 0401 new2 030a new6 040a new6 030f 1401
   030a new6 03058 1101 new7 0302a 0511 new5 05246 newa 0401d 0702 new1 040c new4 040c new4 0401
   new3 0402a new2 0405 newb 0412a 0522 new4 0411a new6 041a 0521 new3 0412 04020 0411c new2 0412
   0523f new1 0521d new2 052b new6 052a new6 052e new2 070f 1302 140e new31 0504c 1401 new1 1602
   0502d 1402 1601 0512b 0613 051c 0616 06034 new8 0604 05138 new3 051f new3 05133 0909 1602 new5
   1102b new2 1103 0618 new8 05223 0614 1001 0702 1201 new5 0406c 04158 0507 0511c 070f 1004 1401
   0901 0601 0521 0502 0119b 0201 0514 0115a 0516 01116 new2 0116 new2 01126 new2 0116 new2 0118
   new1 0111 new1 0111 new1 0111 new1 0111f new2 01135 new1 011f new1 011e new2 0116 new1 01113
   new2 0113 new1 0119 new1 0112f 0301 01117 0321 0306 0325 0402 0412 0321 0417 0325 0511 new1
   0634 0117 0321 new2 0111b new1 0415 0608 new3 011b 0201 0211 0303 0322 0414 0523 0601 0621 0703
   0801 1001 1401 newf 01112 0302 0327 0411 0504 0511 newf 01139 0302 0401 0411 032f 0411 0502
   0511 0523 01130 0301 0501 0514 0521 0802 new4 0115b 0309 032c 011f2 032e 0111 0301 01179 0301
   0321 0301e 03234 0402 041b 050c 0521 060b 0707 0904 1001 01125 0302 1603 new16 011b new15 0118b
   03214 0401 01196 032a 01150 0308 0328 01114 0402 0322 0411 0301 01156 0302 032c 0412 032a 0408
   041b 0511 0522 0402 04110 0501 051a 0523 0514 052a 0601 05213 0601 0521 0604 05218 0701 0114
   0601 0114 0602 0111c 0601 01123 0601 0111 0601 0114 0603 0111 0521 0117 0602 0117 032e 0111f
   0603 01118 0601 011e 0601 0417 0504 0611 0511 0611 0602 0321c 0514 03210 030100 032200 040e
   0416 0507 0515 0504 05129 0703 0515 0525 0701a new2 07020 new1 1301 07022 1103 070c 1201 0708
   1001 11019 0804 110f 1201 0412f 1401 0412f 1401 050d 0513 0521 0513 0504 0516 0522 0416b 0527
   0612 new5 0412d new1 0611 new5 0611 new2 04136 0612 new7 0411 0601 newe 0601 04117 new9 0417
   new1 0417 new1 0417 new1 0417 new1 0417 new1 0417 new1 0417 new1 0417 new1 05120 04118 0514
   0412 05113 0521 061a 0707 0902 1005 1105 1201 1303 140b new22 0301a new1 03059 newc 030d6 new1a
   030c 1514 01138 0303 0323 0301 0111 new1 01154 0322 new2 0116 0322 0115e 0321 new5 01128 0511
   1001 1101 new1 0115e new1 01110 03018 0603 1305 04110 05114 1602 new9 1511 03210 0111d 0402
   new1 01124 052c 0401 032f 0111c 0402 0411 01132 032f 011c 0404 0112f 1211 01177 0404 01163 0402
   0111f 0401 03019b6 130a 04040 01151a6 04116 0518 0528 0611 0809 10015 1105 130d 1403 03048d
   new3 03012 0322 03010 0321 030c 0321 0303 0321 0301 new9 05230 05112c new14 05120 0602 05112
   0618 0511c 0706 0801 0611 05258 new8 04117 0504 0515 0502 0516b 0602 0801 0602 0612 070c 060a
   0611 0703 0901 1101 0702 0806 1102 1206 1402 1205 1304 1603 new2 1402 new1 1401 new1 1405 1603
   new15 1403 1302 0701 0612 0601 0515 0412c 1301 new3 052a new6 05038 new8 05145 0901 new8 051c
   new6 0521c 0802 1102 05154 newb 0511 0521d new3 0524e new1 052b new4 0522 0701f new1 05137 new9
   051e new2 051a new2 0514 0521c 0704 05243 new18 0525 06117 newa 0606 new2 0606 new2 0606 new9
   0607 new1 0607 new1 07030 0804 0702 1202 1304 new4 08050 0522e new2 052a new6 0202ba4 newc
   05217 new4 05231 new804 0111a2e 0612 0323b 0523 new2 0416a new26 0117 newc 0115 new5 0301 01119
   new1 0115 new1 0111 new1 0112 new1 0112 new1 0116c 06010 1401 new10 01116d 14010 01140 new2
   01136 new7 1401 03120 011c 0321 0401 1402 03210 041a new6 0114 0513 0707 0802 01115 0322 0402
   011a new1 01113 new1 0114 new4 0113 0321 0111 new1 01187 new2 0111 new1 0115e 0322 0115e new3
   0116 new2 0116 new2 0116 new2 0113 new3 0117 new1 0117 newa 0303 0211 0113 040c new1 0401a new1
   04013 new1 0402 new1 040f new2 040e new22 0407b new5 0403 new4 0402d new3 0409 0414b 0702 0902
   new1 051c 1301 new3 0701 new2f 0512e new82 0511d new3 05131 newf 0701c new4 0311f 0701 0314
   new9 1003 0311b new5 0702b new5 0401e new1 0401 04124 new4 041e new2a 03126 0402 03126 04050
   new2 040a new6 09024 new4 09024 new4 07028 new8 07034 newb 0701 140b new1 140f new1 1407 new1
   1402 new1 140b new1 140f new1 1407 new1 1402 new3 16034 newc 070137 new9 07016 newa 0708 new18
   1406 new1 1402a new1 1409 new45 0406 new2 0401 new1 0402c new1 0402 new3 0401 new2 0401 05216
   new1 0529 0703f new8 0709 new30 08013 new1 0802 new5 0805 0501a 0522 new3 0501 0511a new5 0511
   new40 06138 new4 0802 0612 08010 new2 0802e 0414 new1 0412 new5 0418 new1 0413 new1 0411b 1102
   new2 0413 new4 0419 1101 new7 0419 new7 05220 07020 new20 07027 new4 070c new9 05236 new3 0521d
   new2 0521b new5 0528 07012 new7 0704 newc 0707 new50 05249 new37 08033 newd 08033 new7 0806
   11028 new8 110a new6 16026 new3 1601d new8 1602 newd0 0521f new1 1302a new1 1303 new2 1302
   new10 1603 new37 1601 1503 11028 new8 1102a new16 1401a new26 1301c new14 12017 new9 0604e new4
   0601e 1406 new9 0701 05242 1401 newa 1101 new2 06119 new7 061a new6 06135 new1 061e 1103 1301
   new8 07027 new9 06149 0804 0701 1302 061a 0701 0805 new1 07014 newb 07012 new1 0702b 0901 1503
   new3e 0807 new1 0801 new1 0804 new1 080f new1 080b new6 0703b new5 070a new6 0801 0703 new1
   0708 new2 0702 new2 07016 new1 0707 new1 0702 new1 0705 new1 1101 0709 new2 0702 new2 0703 new2
   0801 new6 0701 new5 0707 new2 0707 new3 0705 newb 160a new1 1601 new2 1601 new1 16026 new1 160a
   new1 1601 new2 1601 new1 1604 new1 160a new1 1602 new8 1602 new1d 0905a 1301 0901 new1 0901
   1101 1201 1302 new1e 07048 new8 070a newa6 07036 new2 07012 08014 new22 07045 newb 070a new6
   090d new13 06138 1201 1401 new6 061a new6 16014 new1c 0801a 1101 new2 080f new4 08010 1407
   newb9 1103c new64 07053 newc 0701 1307 new2 1301 new2 1308 new1 1302 new1 1301e new1 1302 new2
   130c new9 130a new46 1208 new2 1202e new2 120b new1b 10048 new8 10034 1202 10017 1101 1005 newd
   14010 07039 new7 150a newb6 16022 newe 160a new6 0909 new1 0902d new1 090e newa 0901d new3
   09020 new2 09016 new1 090e new49 1007 new1 1002 new1 1002c new3 1001 new1 1002 new1 1009 new8
   100a new6 1106 new1 1102 new1 11025 new1 1102 new1 1106 new7 110a new136 11019 new7 15011 new1
   15029 new3 1501c 1601 new55 1301 newf 12032 newd 1201 05036f 0702a 0801 new66 05063 070c new1
   0504 0701 newb 080c4 newa4c 14063 newd 05242f 1501 1209 1501d newa 160f9b new5 080247 new1ab9
   1603a new6c6 060239 new7 0701f new1 070a new4 0702 1404f new1 140a new6 0701e new2 0706 newa
   07046 newa 070a new1 0707 new1 07015 new5 07013 new1b0 1603a newc6 1105b new65 06145 1206 new4
   1201 0612f 1209 new7 06111 new40 0901 1001 1202 1301 newb 1302 newe 09017ed 1105 1206 new8
   0902f3 1301e3 new29 1601 1309 new22e7 1404 new1 1407 new1 1402 new1 0602 10011d 1404 newf 1501
   new1d 1203 new2 1501 newe 1204 new8 10018c new904 0706b new5 070d new3 0709 new7 070a new2 0708
   newf5c 160fa new6 1601b4 new4c 1402e new2 14017 new9 14074 new3c 031f6 newa 03127 new2 0511
   031b4 080b 1402 new15 04146 new7a 15014 newc 11014 newc 04057 new9 05012 1107 new87 03155 new1
   03147 new1 0312 new2 0311 new2 0312 new2 0314 new1 031c new1 0311 new1 0314 0401 0312 new1
   03141 new1 0314 new2 0318 new1 0317 new1 0311c new1 0314 new1 0315 new1 0311 new3 0317 new1
   031152 0412 new2 031122 0502 new2 03132 08028c newf 0805 new1 080f new450 1401f new6 1506 newd5
   0907 new1 09011 new2 0907 new1 0902 new1 0905 new5 1503e new21 1501 new70 1202d new3 120e new2
   120a new4 1202 new140 1401f new11 1203a new5 1201 new1d0 1502a newd6 1602b new4 1601 new1e0
   1407 new1 1404 new1 1402 new1 140f new1 070c5 new2 07010 new29 0904b 1201 new4 090a new4 0902
   new311 11044 new4c 1203d newc2 0614 new1 0611b new1 0612 new1 0611 new2 0611 new1 061a new1
   0614 new1 0611 new1 0611 new6 0611 new4 0611 new1 0611 new1 0611 new1 0613 new1 0612 new1 0611
   new2 0611 new1 0611 new1 0611 new1 0611 new1 0611 new1 0612 new1 0611 new2 0614 new1 0617 new1
   0614 new1 0614 new1 0611 new1 061a new1 06111 new5 0613 new1 0615 new1 06111 new34 0612 new10e
   0512c new4 05164 newc 060f new2 060e 0701 new1 060f new1 060f 07016 newa 052b 0702 1303 0521f
   1101 0601 0521 060b 0521 0601 0521 0602 0521 0603 0521 0603 0525 0608 0521 0607 0521 060a 0612
   1201 1303 0609 0521 0601 0522 0602 0521 060a 0524 0602 0521 060a 09012 1301 new38 0601a 0521
   0602 newd 05222 0609 0901 new4 0529 new7 0602 newe 1006 new9a 06021 070c 0803 0606 0701 06046
   0701 0802 06014 070c 06025 0701 0605 0704 0805 070c 06011 0707 0808 0603f 0701 0601 0701 060b6
   0701 0604 0702 0801 0603e 0702 0614 0707 0805 06018 07012 0901 07029 0901 07056 0605 0611 06010
   0611 0603 0611 0601 0611 0601 0611 0601 0611 0603 0611 0606 0612 0604 0611 0601 0612 0604 0611
   060c 0702 0802 060b 07030 06046 070a 0801 0902 1002 1201 1302 new4 1501 1403 070d new3 0704
   0903 1002 1101 1201 1302 new3 06074 1503 new4 1505 07055 1104 1501 new6 120c new4 1401 newf
   070c new4 07038 new8 070a new6 07028 new8 0701e new2 1302 160a new4 1602 new3e 100c 1301 1203
   0809 0906 1001 0908 1008 0901 1002 090c 1201 090c 1001 1103 090f 100d 1105 1201 1301 1104 1302
   1401 1101 1201 1104 0805 090d 1006 110b 1302 1206 1303 1202 110a 1206 0801 1102 1208 1301 1401
   1203 10017 11019 12054 newc 110e new2 1204 1301 1503 1203 1402 new3 1203 1304 1502 1601 new5
   1601 1206 13013 1404 1503 1307 1404 1503 1601 1501 1303 1403 1601 new7 1502 1307 1403 1502 1601
   new2 1601 1408 1501 1601 new6 1407 1502 new7 13093 new1 13037 16025 130a new404 0202 031a6d7
   1307 1402 new20 0521035 1404 1501 new6 060de new2 0801682 newe 1001d31 newf 15126e new9a2
   03121e new5e0 0202 130134b new5 1501060 newdc4e 0202 newfffe 0202 newfffe 0202 newfffe 0202
   newfffe 0202 newfffe 0202 newfffe 0202 newfffe 0202 newfffe 0202 newfffe 0202 newfffe 0202 new1
   0311 new1e 03160 new80 040f0 newfe0e 02020002"

/-- The editions, from the first on. -/
def editionLabels : List String :=
  blankWords
    "011 020 021 030 031 032 040 041 050 051 052 060 061 062 063 070 080 090 100 110 120 121 130
     140 150 151 160"

/-- The code points that an edition knows, given by its place among the editions. -/
def knownSince (place : Nat) : CodePointSet :=
  ages.labelled (editionLabels.take (place + 1))

end LineShell.Text

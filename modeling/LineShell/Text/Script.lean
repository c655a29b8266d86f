import LineShell.Text.CodePoints

/-!
# Scripts

Every assigned character belongs to one script, named by four letters, or is common to several.
Some characters are used with a few scripts only; their extensions list these.
-/

namespace LineShell.Text

/-- The scripts of the code points; `zzzz` is for those that have none. -/
def scripts : Partition := .ofText 4
  "zyyy41 latn1a zyyy6 latn1a zyyy2f latn1 zyyyf latn1 zyyy5 latn17 zyyy1 latn1f zyyy1 latn1c1
   zyyy27 latn5 zyyy5 bopo2 zyyy14 zinh70 grek4 zyyy1 grek3 zzzz2 grek4 zyyy1 grek1 zzzz4 grek1
   zyyy1 grek1 zyyy1 grek3 zzzz1 grek1 zzzz1 grek14 zzzz1 grek3f copte grek10 cyrl85 zinh2 cyrla9
   zzzz1 armn26 zzzz2 armn32 zzzz2 armn3 zzzz1 hebr37 zzzz8 hebr1b zzzz4 hebr6 zzzzb arab5 zyyy1
   arab6 zyyy1 arabe zyyy1 arab3 zyyy1 arab20 zyyy1 araba zinhb arab1a zinh1 arab6c zyyy1 arab22
   syrce zzzz1 syrc3c zzzz2 syrc3 arab30 thaa32 zzzze nkoo3b zzzz2 nkoo3 samr2e zzzz2 samrf zzzz1
   mand1c zzzz2 mand1 zzzz1 syrcb zzzz5 arab1f zzzz1 arab2 zzzz5 arab4b zyyy1 arab1d deva51 zinh4
   devaf zyyy2 deva1a beng4 zzzz1 beng8 zzzz2 beng2 zzzz2 beng16 zzzz1 beng7 zzzz1 beng1 zzzz3
   beng4 zzzz2 beng9 zzzz2 beng2 zzzz2 beng4 zzzz8 beng1 zzzz4 beng2 zzzz1 beng5 zzzz2 beng19
   zzzz2 guru3 zzzz1 guru6 zzzz4 guru2 zzzz2 guru16 zzzz1 guru7 zzzz1 guru2 zzzz1 guru2 zzzz1
   guru2 zzzz2 guru1 zzzz1 guru5 zzzz4 guru2 zzzz2 guru3 zzzz3 guru1 zzzz7 guru4 zzzz1 guru1 zzzz7
   guru11 zzzza gujr3 zzzz1 gujr9 zzzz1 gujr3 zzzz1 gujr16 zzzz1 gujr7 zzzz1 gujr2 zzzz1 gujr5
   zzzz2 gujra zzzz1 gujr3 zzzz1 gujr3 zzzz2 gujr1 zzzzf gujr4 zzzz2 gujrc zzzz7 gujr7 zzzz1 orya3
   zzzz1 orya8 zzzz2 orya2 zzzz2 orya16 zzzz1 orya7 zzzz1 orya2 zzzz1 orya5 zzzz2 orya9 zzzz2
   orya2 zzzz2 orya3 zzzz7 orya3 zzzz4 orya2 zzzz1 orya5 zzzz2 orya12 zzzza taml2 zzzz1 taml6
   zzzz3 taml3 zzzz1 taml4 zzzz3 taml2 zzzz1 taml1 zzzz1 taml2 zzzz3 taml2 zzzz3 taml3 zzzz3 tamlc
   zzzz4 taml5 zzzz3 taml3 zzzz1 taml4 zzzz2 taml1 zzzz6 taml1 zzzze taml15 zzzz5 telud zzzz1
   telu3 zzzz1 telu17 zzzz1 telu10 zzzz2 telu9 zzzz1 telu3 zzzz1 telu4 zzzz7 telu2 zzzz1 telu3
   zzzz2 telu1 zzzz2 telu4 zzzz2 telua zzzz7 telu9 kndad zzzz1 knda3 zzzz1 knda17 zzzz1 kndaa
   zzzz1 knda5 zzzz2 knda9 zzzz1 knda3 zzzz1 knda4 zzzz7 knda2 zzzz6 knda2 zzzz1 knda4 zzzz2 kndaa
   zzzz1 knda3 zzzzc mlymd zzzz1 mlym3 zzzz1 mlym33 zzzz1 mlym3 zzzz1 mlym6 zzzz4 mlym10 zzzz2
   mlym1a zzzz1 sinh3 zzzz1 sinh12 zzzz3 sinh18 zzzz1 sinh9 zzzz1 sinh1 zzzz2 sinh7 zzzz3 sinh1
   zzzz4 sinh6 zzzz1 sinh1 zzzz1 sinh8 zzzz6 sinha zzzz2 sinh3 zzzzc thai3a zzzz4 zyyy1 thai1c
   zzzz25 laoo2 zzzz1 laoo1 zzzz1 laoo5 zzzz1 laoo18 zzzz1 laoo1 zzzz1 laoo17 zzzz2 laoo5 zzzz1
   laoo1 zzzz1 laoo7 zzzz1 laooa zzzz2 laoo4 zzzz20 tibt48 zzzz1 tibt24 zzzz4 tibt27 zzzz1 tibt24
   zzzz1 tibtf zzzz1 tibt7 zyyy4 tibt2 zzzz25 mymra0 geor26 zzzz1 geor1 zzzz5 geor1 zzzz2 geor2b
   zyyy1 geor4 hang100 ethi49 zzzz1 ethi4 zzzz2 ethi7 zzzz1 ethi1 zzzz1 ethi4 zzzz2 ethi29 zzzz1
   ethi4 zzzz2 ethi21 zzzz1 ethi4 zzzz2 ethi7 zzzz1 ethi1 zzzz1 ethi4 zzzz2 ethif zzzz1 ethi39
   zzzz1 ethi4 zzzz2 ethi43 zzzz2 ethi20 zzzz3 ethi1a zzzz6 cher56 zzzz2 cher6 zzzz2 cans280
   ogam1d zzzz3 runr4b zyyy3 runrb zzzz7 tglg16 zzzz9 tglg1 hano15 zyyy2 zzzz9 buhd14 zzzzc tagbd
   zzzz1 tagb3 zzzz1 tagb2 zzzzc khmr5e zzzz2 khmra zzzz6 khmra zzzz6 mong2 zyyy2 mong1 zyyy1
   mong14 zzzz6 mong59 zzzz7 mong2b zzzz5 cans46 zzzza limb1f zzzz1 limbc zzzz4 limbc zzzz4 limb1
   zzzz3 limbc tale1e zzzz2 tale5 zzzzb talu2c zzzz4 talu1a zzzz6 talub zzzz3 talu2 khmr20 bugi1c
   zzzz2 bugi2 lana3f zzzz1 lana1d zzzz2 lanab zzzz6 lanaa zzzz6 lanae zzzz2 zinh1f zzzz31 bali4d
   zzzz1 bali32 sund40 batk34 zzzz8 batk4 lepc38 zzzz3 lepcf zzzz3 lepc3 olck30 cyrlb zzzz5 geor2b
   zzzz2 geor3 sund8 zzzz8 zinh3 zyyy1 zinhd zyyy1 zinh7 zyyy4 zinh1 zyyy6 zinh1 zyyy3 zinh2 zyyy1
   zzzz5 latn26 grek5 cyrl1 latn31 grek5 latn4 grek5 latnd cyrl1 latn46 grek1 zinh40 latn100
   grek16 zzzz2 grek6 zzzz2 grek26 zzzz2 grek6 zzzz2 grek8 zzzz1 grek1 zzzz1 grek1 zzzz1 grek1
   zzzz1 grek1f zzzz2 grek35 zzzz1 grekf zzzz1 greke zzzz2 grek6 zzzz1 grek13 zzzz2 grek3 zzzz1
   grek9 zzzz1 zyyyc zinh2 zyyy57 zzzz1 zyyyb latn1 zzzz2 zyyyb latn1 zyyyf zzzz1 latnd zzzz3
   zyyy21 zzzzf zinh21 zzzzf zyyy26 grek1 zyyy3 latn2 zyyy6 latn1 zyyy1b latn1 zyyy11 latn29 zyyy3
   zzzz4 zyyy29a zzzz16 zyyyb zzzz15 zyyy3a0 brai100 zyyy274 zzzz2 zyyy20 zzzz1 zyyy69 glag60
   latn20 copt74 zzzz5 copt7 geor26 zzzz1 geor1 zzzz5 geor1 zzzz2 tfng38 zzzz7 tfng2 zzzze tfng1
   ethi17 zzzz9 ethi7 zzzz1 ethi7 zzzz1 ethi7 zzzz1 ethi7 zzzz1 ethi7 zzzz1 ethi7 zzzz1 ethi7
   zzzz1 ethi7 zzzz1 cyrl20 zyyy5e zzzz22 hani1a zzzz1 hani59 zzzzc hanid6 zzzz1a zyyy15 hani1
   zyyy1 hani1 zyyy19 hani9 zinh4 hang2 zyyy8 hani4 zyyy4 zzzz1 hira56 zzzz2 zinh2 zyyy2 hira3
   zyyy1 kana5a zyyy2 kana3 zzzz5 bopo2b zzzz1 hang5e zzzz1 zyyy10 bopo20 zyyy26 zzzz9 zyyy1
   kana10 hang1f zzzz1 zyyy40 hang1f zyyy51 kana2f zyyy1 kana58 zyyya8 hani19c0 zyyy40 hani5200
   yiii48d zzzz3 yiii37 zzzz9 lisu30 vaii12c zzzz14 cyrl60 bamu58 zzzz8 zyyy22 latn66 zyyy3 latn43
   zzzz2 latn2 zzzz1 latn1 zzzz1 latn8 zzzz15 latne sylo2d zzzz3 zyyya zzzz6 phag38 zzzz8 saur46
   zzzz8 saurc zzzz6 deva20 kali2e zyyy1 kali1 rjng24 zzzzb rjng1 hang1d zzzz3 java4e zzzz1 zyyy1
   javaa zzzz4 java2 mymr1f zzzz1 cham37 zzzz9 chame zzzz2 chama zzzz2 cham4 mymr20 tavt43 zzzz18
   tavt5 mtei17 zzzza ethi6 zzzz2 ethi6 zzzz2 ethi6 zzzz9 ethi7 zzzz1 ethi7 zzzz1 latn2b zyyy1
   latn9 grek1 latn4 zyyy2 zzzz4 cher50 mtei2e zzzz2 mteia zzzz6 hang2ba4 zzzzc hang17 zzzz4
   hang31 zzzz2104 hani16e zzzz2 hani6a zzzz26 latn7 zzzzc armn5 zzzz5 hebr1a zzzz1 hebr5 zzzz1
   hebr1 zzzz1 hebr2 zzzz1 hebr2 zzzz1 hebra arab73 zzzz10 arab16b zyyy2 arab50 zzzz2 arab36 zzzz7
   arab1 zzzz20 arab10 zinh10 zyyya zzzz6 zinhe cyrl2 zyyy23 zzzz1 zyyy13 zzzz1 zyyy4 zzzz4 arab5
   zzzz1 arab87 zzzz2 zyyy1 zzzz1 zyyy20 latn1a zyyy6 latn1a zyyyb kanaa zyyy1 kana2d zyyy2 hang1f
   zzzz3 hang6 zzzz2 hang6 zzzz2 hang6 zzzz2 hang3 zzzz3 zyyy7 zzzz1 zyyy7 zzzza zyyy5 zzzz2 linbc
   zzzz1 linb1a zzzz1 linb13 zzzz1 linb2 zzzz1 linbf zzzz2 linbe zzzz22 linb7b zzzz5 zyyy3 zzzz4
   zyyy2d zzzz3 zyyy9 grek4f zzzz1 zyyyd zzzz3 grek1 zzzz2f zyyy2d zinh1 zzzz82 lyci1d zzzz3
   cari31 zzzzf zinh1 zyyy1b zzzz4 ital24 zzzz9 ital3 goth1b zzzz5 perm2b zzzz5 ugar1e zzzz1 ugar1
   xpeo24 zzzz4 xpeoe zzzz2a dsrt50 shaw30 osma1e zzzz2 osmaa zzzz6 osge24 zzzz4 osge24 zzzz4
   elba28 zzzz8 aghb34 zzzzb aghb1 vithb zzzz1 vithf zzzz1 vith7 zzzz1 vith2 zzzz1 vithb zzzz1
   vithf zzzz1 vith7 zzzz1 vith2 zzzz3 todr34 zzzzc lina137 zzzz9 lina16 zzzza lina8 zzzz18 latn6
   zzzz1 latn2a zzzz1 latn9 zzzz45 cprt6 zzzz2 cprt1 zzzz1 cprt2c zzzz1 cprt2 zzzz3 cprt1 zzzz2
   cprt1 armi16 zzzz1 armi9 palm20 nbat1f zzzz8 nbat9 zzzz30 hatr13 zzzz1 hatr2 zzzz5 hatr5 phnx1c
   zzzz3 phnx1 lydi1a zzzz5 lydi1 zzzz40 mero20 merc18 zzzz4 merc14 zzzz2 merc2e khar4 zzzz1 khar2
   zzzz5 khar8 zzzz1 khar3 zzzz1 khar1d zzzz2 khar3 zzzz4 khara zzzz7 khar9 zzzz7 sarb20 narb20
   zzzz20 mani27 zzzz4 manic zzzz9 avst36 zzzz3 avst7 prti16 zzzz2 prti8 phli13 zzzz5 phli8 phlp12
   zzzz7 phlp4 zzzzc phlp7 zzzz50 orkh49 zzzz37 hung33 zzzzd hung33 zzzz7 hung6 rohg28 zzzz8 rohga
   zzzz6 gara26 zzzz3 gara1d zzzz8 gara2 zzzzd0 arab1f zzzz1 yezi2a zzzz1 yezi3 zzzz2 yezi2 zzzz10
   arab3 zzzz37 arab4 sogo28 zzzz8 sogd2a zzzz16 ougr1a zzzz26 chrs1c zzzz14 elym17 zzzz9 brah4e
   zzzz4 brah24 zzzz9 brah1 kthi43 zzzza kthi1 zzzz2 sora19 zzzz7 soraa zzzz6 cakm35 zzzz1 cakm12
   zzzz8 mahj27 zzzz9 shrd60 zzzz1 sinh14 zzzzb khoj12 zzzz1 khoj2f zzzz3e mult7 zzzz1 mult1 zzzz1
   mult4 zzzz1 multf zzzz1 multb zzzz6 sind3b zzzz5 sinda zzzz6 gran4 zzzz1 gran8 zzzz2 gran2
   zzzz2 gran16 zzzz1 gran7 zzzz1 gran2 zzzz1 gran5 zzzz1 zinh1 gran9 zzzz2 gran2 zzzz2 gran3
   zzzz2 gran1 zzzz6 gran1 zzzz5 gran7 zzzz2 gran7 zzzz3 gran5 zzzzb tutga zzzz1 tutg1 zzzz2 tutg1
   zzzz1 tutg26 zzzz1 tutga zzzz1 tutg1 zzzz2 tutg1 zzzz1 tutg4 zzzz1 tutga zzzz1 tutg2 zzzz8
   tutg2 zzzz1d newa5c zzzz1 newa5 zzzz1e tirh48 zzzz8 tirha zzzza6 sidd36 zzzz2 sidd26 zzzz22
   modi45 zzzzb modia zzzz6 mongd zzzz13 takr3a zzzz6 takra zzzz6 mymr14 zzzz1c ahom1b zzzz2 ahomf
   zzzz4 ahom17 zzzzb9 dogr3c zzzz64 wara53 zzzzc wara1 diak7 zzzz2 diak1 zzzz2 diak8 zzzz1 diak2
   zzzz1 diak1e zzzz1 diak2 zzzz2 diakc zzzz9 diaka zzzz46 nand8 zzzz2 nand2e zzzz2 nandb zzzz1b
   zanb48 zzzz8 soyo53 zzzzd cans10 pauc39 zzzz7 devaa zzzzb6 sunu22 zzzze sunua zzzz6 bhks9 zzzz1
   bhks2d zzzz1 bhkse zzzza bhks1d zzzz3 marc20 zzzz2 marc16 zzzz1 marce zzzz49 gonm7 zzzz1 gonm2
   zzzz1 gonm2c zzzz3 gonm1 zzzz1 gonm2 zzzz1 gonm9 zzzz8 gonma zzzz6 gong6 zzzz1 gong2 zzzz1
   gong25 zzzz1 gong2 zzzz1 gong6 zzzz7 gonga zzzz136 maka19 zzzz7 kawi11 zzzz1 kawi29 zzzz3
   kawi1d zzzz55 lisu1 zzzzf taml32 zzzzd taml1 xsux39a zzzz66 xsux6f zzzz1 xsux5 zzzzb xsuxc4
   zzzza4c cpmn63 zzzzd egyp456 zzzza egypf9b zzzz5 hluw247 zzzz1ab9 gukh3a zzzz6c6 bamu239 zzzz7
   mroo1f zzzz1 mrooa zzzz4 mroo2 tnsa4f zzzz1 tnsaa zzzz6 bass1e zzzz2 bass6 zzzza hmng46 zzzza
   hmnga zzzz1 hmng7 zzzz1 hmng15 zzzz5 hmng13 zzzz1b0 krai3a zzzzc6 medf5b zzzz65 plrd4b zzzz4
   plrd39 zzzz7 plrd11 zzzz40 tang1 nshu1 hani2 kits1 zzzzb hani2 zzzze tang17f8 zzzz8 tang300
   kits1d6 zzzz29 kits1 tang9 zzzz22e7 kana4 zzzz1 kana7 zzzz1 kana2 zzzz1 kana1 hira11f kana3
   zzzzf hira1 zzzz1d hira3 zzzz2 kana1 zzzze kana4 zzzz8 nshu18c zzzz904 dupl6b zzzz5 dupld zzzz3
   dupl9 zzzz7 dupla zzzz2 dupl4 zyyy4 zzzzf5c zyyyfa zzzz6 zyyy1b4 zzzz4c zinh2e zzzz2 zinh17
   zzzz9 zyyy74 zzzz3c zyyyf6 zzzza zyyy27 zzzz2 zyyy3e zinh3 zyyy11 zinh8 zyyy2 zinh7 zyyy1e
   zinh4 zyyy3d zzzz15 grek46 zzzz7a zyyy14 zzzzc zyyy14 zzzzc zyyy57 zzzz9 zyyy19 zzzz87 zyyy55
   zzzz1 zyyy47 zzzz1 zyyy2 zzzz2 zyyy1 zzzz2 zyyy2 zzzz2 zyyy4 zzzz1 zyyyc zzzz1 zyyy1 zzzz1
   zyyy7 zzzz1 zyyy41 zzzz1 zyyy4 zzzz2 zyyy8 zzzz1 zyyy7 zzzz1 zyyy1c zzzz1 zyyy4 zzzz1 zyyy5
   zzzz1 zyyy1 zzzz3 zyyy7 zzzz1 zyyy154 zzzz2 zyyy124 zzzz2 zyyy32 sgnw28c zzzzf sgnw5 zzzz1
   sgnwf zzzz450 latn1f zzzz6 latn6 zzzzd5 glag7 zzzz1 glag11 zzzz2 glag7 zzzz1 glag2 zzzz1 glag5
   zzzz5 cyrl3e zzzz21 cyrl1 zzzz70 hmnp2d zzzz3 hmnpe zzzz2 hmnpa zzzz4 hmnp2 zzzz140 toto1f
   zzzz11 wcho3a zzzz5 wcho1 zzzz1d0 nagm2a zzzzd6 onao2b zzzz4 onao1 zzzz1e0 ethi7 zzzz1 ethi4
   zzzz1 ethi2 zzzz1 ethif zzzz1 mendc5 zzzz2 mend10 zzzz29 adlm4c zzzz4 adlma zzzz4 adlm2 zzzz311
   zyyy44 zzzz4c zyyy3d zzzzc2 arab4 zzzz1 arab1b zzzz1 arab2 zzzz1 arab1 zzzz2 arab1 zzzz1 araba
   zzzz1 arab4 zzzz1 arab1 zzzz1 arab1 zzzz6 arab1 zzzz4 arab1 zzzz1 arab1 zzzz1 arab1 zzzz1 arab3
   zzzz1 arab2 zzzz1 arab1 zzzz2 arab1 zzzz1 arab1 zzzz1 arab1 zzzz1 arab1 zzzz1 arab1 zzzz1 arab2
   zzzz1 arab1 zzzz2 arab4 zzzz1 arab7 zzzz1 arab4 zzzz1 arab4 zzzz1 arab1 zzzz1 araba zzzz1
   arab11 zzzz5 arab3 zzzz1 arab5 zzzz1 arab11 zzzz34 arab2 zzzz10e zyyy2c zzzz4 zyyy64 zzzzc
   zyyyf zzzz2 zyyyf zzzz1 zyyyf zzzz1 zyyy25 zzzza zyyyae zzzz38 zyyy1a hira1 zyyy2 zzzzd zyyy2c
   zzzz4 zyyy9 zzzz7 zyyy2 zzzze zyyy6 zzzz9a zyyy3d8 zzzz4 zyyy11 zzzz3 zyyyd zzzz3 zyyy77 zzzz4
   zyyy5f zzzz6 zyyyc zzzz4 zyyy1 zzzzf zyyyc zzzz4 zyyy38 zzzz8 zyyya zzzz6 zyyy28 zzzz8 zyyy1e
   zzzz2 zyyyc zzzz4 zyyy2 zzzz3e zyyy154 zzzzc zyyye zzzz2 zyyyd zzzz3 zyyya zzzz5 zyyy38 zzzz7
   zyyyf zzzz2 zyyyb zzzz6 zyyy9 zzzz7 zyyy93 zzzz1 zyyy66 zzzz406 hania6e0 zzzz20 hani103a zzzz6
   hanide zzzz2 hani1682 zzzze hani1d31 zzzzf hani26e zzzz9a2 hani21e zzzz5e2 hani134b zzzz5
   hani1060 zzzzadc51 zyyy1 zzzz1e zyyy60 zzzz80 zinhf0 zzzz2fe10"

/-- The characters whose extensions are not just their own script: the scripts that they are used
with, and the switches of their set. -/
def scriptExtensions : List (String × String) :=
  [("avst cari copt dupl elba geor glag gong goth grek hani latn lydi mahj perm shaw", "b7 b8"),
   ("beng cyrl deva latn lisu thai toto", "2bc 2bd"),
   ("bopo latn", "2c7 2c8 2c9 2cc 2d9 2da"),
   ("latn lisu", "2cd 2ce"),
   ("latn thai", "2d7 2d8"),
   ("cher copt cyrl grek latn perm sunu tale", "300 301"),
   ("cher cyrl grek latn osge sunu tale todr", "301 302"),
   ("cher cyrl latn tfng", "302 303"),
   ("glag latn sunu syrc thai", "303 304"),
   ("aghb cher copt cyrl goth grek latn osge syrc tfng todr", "304 305"),
   ("copt elba glag goth kana latn", "305 306"),
   ("cyrl grek latn perm", "306 307"),
   ("copt dupl hebr latn perm syrc tale tfng todr", "307 308"),
   ("armn cyrl dupl goth grek hebr latn perm syrc tale", "308 309"),
   ("latn tfng", "309 30a"),
   ("dupl latn syrc", "30a 30b"),
   ("cher cyrl latn osge", "30b 30c"),
   ("cher latn tale", "30c 30d"),
   ("latn sunu", "30d 30e 310 311"),
   ("ethi latn", "30e 30f"),
   ("cyrl latn todr", "311 312"),
   ("grek latn perm todr", "313 314"),
   ("latn syrc", "320 321 325 326 32e 32f"),
   ("cher dupl kana latn syrc", "323 324"),
   ("cher dupl latn syrc", "324 325"),
   ("latn sunu syrc", "32d 32e"),
   ("cher latn syrc", "330 331"),
   ("aghb cher goth latn sunu thai", "331 332"),
   ("grek", "342 343 345 346 1dc0 1dc2"),
   ("latn osge", "358 359"),
   ("aghb latn todr", "35e 35f"),
   ("latn", "363 370"),
   ("copt grek", "374 376"),
   ("cyrl perm", "483 484"),
   ("cyrl glag", "484 485 487 488 2e43 2e44 a66f a670"),
   ("cyrl latn", "485 487"),
   ("armn geor glag", "589 58a"),
   ("arab gara nkoo rohg syrc thaa yezi", "60c 60d 61b 61c"),
   ("arab syrc thaa", "61c 61d"),
   ("adlm arab gara nkoo rohg syrc thaa yezi", "61f 620"),
   ("adlm arab mand mani ougr phlp rohg sogd syrc", "640 641"),
   ("arab syrc", "64b 656 670 671"),
   ("arab thaa yezi", "660 66a"),
   ("arab rohg", "6d4 6d5"),
   ("beng deva gran gujr guru knda latn mlym orya shrd taml telu tirh", "951 952"),
   ("beng deva gran gujr guru knda latn mlym orya taml telu tirh", "952 953"),
   ("beng deva dogr gong gonm gran gujr guru knda mahj mlym nand onao orya sind sinh sylo takr
     taml telu tirh",
    "964 965"),
   ("beng deva dogr gong gonm gran gujr gukh guru knda limb mahj mlym nand onao orya sind sinh
     sylo takr taml telu tirh",
    "965 966"),
   ("deva dogr kthi mahj", "966 970"),
   ("beng cakm sylo", "9e6 9f0"),
   ("guru mult", "a66 a70"),
   ("gujr khoj", "ae6 af0"),
   ("gran taml", "be6 bf4 11301 11302 11303 11304 1133b 1133d 11fd0 11fd2 11fd3 11fd4"),
   ("knda nand tutg", "ce6 cf0"),
   ("cakm mymr tale", "1040 104a"),
   ("geor glag latn", "10fb 10fc"),
   ("runr", "16eb 16ee"),
   ("buhd hano tagb tglg", "1735 1737"),
   ("mong phag", "1802 1804 1805 1806"),
   ("beng deva gran knda", "1cd0 1cd1 1cd2 1cd3"),
   ("deva", "1cd1 1cd2 1cd4 1cd5 1cdb 1cdc 1cde 1ce0 1ce2 1ce9 1ceb 1ced 1cee 1cf2"),
   ("deva gran knda", "1cd3 1cd4"),
   ("beng deva", "1cd5 1cd7 1cd8 1cd9 1ce1 1ce2 1cea 1ceb 1ced 1cee 1cf5 1cf7"),
   ("deva shrd", "1cd7 1cd8 1cd9 1cda 1cdc 1cde 1ce0 1ce1"),
   ("deva knda mlym orya taml telu", "1cda 1cdb"),
   ("deva nand", "1ce9 1cea"),
   ("beng deva gran knda mlym nand orya sinh telu tirh tutg", "1cf2 1cf3"),
   ("deva gran", "1cf3 1cf4 1cf8 1cfa"),
   ("deva gran knda tutg", "1cf4 1cf5"),
   ("beng", "1cf7 1cf8"),
   ("nand", "1cfa 1cfb"),
   ("cyrl latn syrc", "1df8 1df9"),
   ("syrc", "1dfa 1dfb"),
   ("latn mong phag", "202f 2030"),
   ("adlm arab", "204f 2050"),
   ("cari geor glag hung lyci orkh", "205a 205b"),
   ("cari grek hung mero", "205d 205e"),
   ("deva gran latn", "20f0 20f1"),
   ("copt latn", "2e17 2e18"),
   ("avst orkh", "2e30 2e31"),
   ("avst cari geor hung kthi lydi samr", "2e31 2e32"),
   ("dupl", "2e3c 2e3d 1bca0 1bca4"),
   ("adlm arab hung", "2e41 2e42"),
   ("hani tang", "2ff0 3000 31ef 31f0"),
   ("bopo hang hani hira kana mong yiii", "3001 3002"),
   ("bopo hang hani hira kana mong phag yiii", "3002 3003"),
   ("bopo hang hani hira kana", "3003 3004 3013 3014 301c 3020 3030 3031 3037 3038 fe45 fe47"),
   ("hani",
    "3006 3007 303e 3040 3190 31a0 31c0 31e6 3220 3248 3280 32b1 32c0 32cc 32ff 3300 3358 3371
     337b 3380 33e0 33ff 1d360 1d372 1f250 1f252"),
   ("bopo hang hani hira kana mong tibt yiii", "3008 300a"),
   ("bopo hang hani hira kana lisu mong tibt yiii", "300a 300c"),
   ("bopo hang hani hira kana yiii", "300c 3012 3014 301c 30fb 30fc ff61 ff66"),
   ("bopo hani", "302a 302e"),
   ("hira kana", "3031 3036 3099 309d 30a0 30a1 30fc 30fd ff70 ff71 ff9e ffa0"),
   ("hani hira kana", "303c 303e"),
   ("hani latn", "a700 a708"),
   ("deva dogr gujr guru khoj knda kthi mahj mlym modi nand shrd sind takr tirh tutg",
    "a830 a833"),
   ("deva dogr gujr guru khoj knda kthi mahj modi nand shrd sind takr tirh tutg", "a833 a836"),
   ("deva dogr gujr guru khoj kthi mahj modi sind takr tirh", "a836 a838 a839 a83a"),
   ("deva dogr gujr guru khoj kthi mahj modi shrd sind takr tirh", "a838 a839"),
   ("beng deva tutg", "a8f1 a8f2"),
   ("deva taml", "a8f3 a8f4"),
   ("kali latn mymr", "a92e a92f"),
   ("bugi java", "a9cf a9d0"),
   ("arab nkoo", "fd3e fd40"),
   ("arab thaa", "fdf2 fdf3 fdfd fdfe"),
   ("cpmn cprt linb", "10100 10102"),
   ("cprt linb", "10102 10103 10137 10140"),
   ("cprt lina linb", "10107 10134"),
   ("arab copt", "102e0 102fc"),
   ("mani ougr", "10af2 10af3")]

/-- The short and the long names of the scripts, in turn. -/
def scriptNames : String :=
  "adlm adlam ahom ahom hluw anatolianhieroglyphs arab arabic armn armenian avst avestan bali
   balinese bamu bamum bass bassavah batk batak beng bengali bhks bhaiksuki bopo bopomofo brah
   brahmi brai braille bugi buginese buhd buhid cans canadianaboriginal cari carian aghb
   caucasianalbanian cakm chakma cham cham cher cherokee chrs chorasmian zyyy common copt coptic
   xsux cuneiform cprt cypriot cpmn cyprominoan cyrl cyrillic dsrt deseret deva devanagari diak
   divesakuru dogr dogra dupl duployan egyp egyptianhieroglyphs elba elbasan elym elymaic ethi
   ethiopic gara garay geor georgian glag glagolitic goth gothic gran grantha grek greek gujr
   gujarati gong gunjalagondi guru gurmukhi gukh gurungkhema hani han hang hangul rohg
   hanifirohingya hano hanunoo hatr hatran hebr hebrew hira hiragana armi imperialaramaic zinh
   inherited phli inscriptionalpahlavi prti inscriptionalparthian java javanese kthi kaithi knda
   kannada kana katakana kawi kawi kali kayahli khar kharoshthi kits khitansmallscript khmr khmer
   khoj khojki sind khudawadi krai kiratrai laoo lao latn latin lepc lepcha limb limbu lina
   lineara linb linearb lisu lisu lyci lycian lydi lydian mahj mahajani maka makasar mlym
   malayalam mand mandaic mani manichaean marc marchen gonm masaramgondi medf medefaidrin mtei
   meeteimayek mend mendekikakui merc meroiticcursive mero meroitichieroglyphs plrd miao modi modi
   mong mongolian mroo mro mult multani mymr myanmar nbat nabataean nagm nagmundari nand
   nandinagari talu newtailue newa newa nkoo nko nshu nushu hmnp nyiakengpuachuehmong ogam ogham
   olck olchiki onao olonal hung oldhungarian ital olditalic narb oldnortharabian perm oldpermic
   xpeo oldpersian sogo oldsogdian sarb oldsoutharabian orkh oldturkic ougr olduyghur orya oriya
   osge osage osma osmanya hmng pahawhhmong palm palmyrene pauc paucinhau phag phagspa phnx
   phoenician phlp psalterpahlavi rjng rejang runr runic samr samaritan saur saurashtra shrd
   sharada shaw shavian sidd siddham sgnw signwriting sinh sinhala sogd sogdian sora sorasompeng
   soyo soyombo sund sundanese sunu sunuwar sylo sylotinagri syrc syriac tglg tagalog tagb
   tagbanwa tale taile lana taitham tavt taiviet takr takri taml tamil tnsa tangsa tang tangut
   telu telugu thaa thaana thai thai tibt tibetan tfng tifinagh tirh tirhuta todr todhri toto toto
   tutg tulutigalari ugar ugaritic vaii vai vith vithkuqi wcho wancho wara warangciti yezi yezidi
   yiii yi zanb zanabazarsquare"

/-- Puts the words of a list in pairs. -/
def pairUp {α : Type} : List α → List (α × α)
  | a :: b :: rest => (a, b) :: pairUp rest
  | _ => []

/-- The short name of a script that is given by either of its names. -/
def scriptCode? (name : String) : Option String :=
  let names := pairUp (blankWords scriptNames) ++ [("copt", "qaac"), ("zinh", "qaai")]
  (names.find? fun (short, long) => short == name || long == name).map Prod.fst

/-- The characters of a script. -/
def scriptSet (code : String) : CodePointSet := scripts.labelled [code]

/-- The characters that are used with a script. -/
def scriptExtensionSet (code : String) : CodePointSet :=
  let extended := scriptExtensions.map fun (codes, text) =>
    (blankWords codes, CodePointSet.ofText text)
  let used := extended.filterMap fun (codes, set) => if codes.contains code then some set else none
  ((scriptSet code).diff (.unions (extended.map Prod.snd))).union (.unions used)

end LineShell.Text

import Postroom.Unicode.Runs

/-!
# Scripts

The script of every code point by edition 16 of the standard, as runs under the four-letter codes of
the scripts, and the long names of those codes.  Characters that several scripts share, or one that
is not their own, are listed with all scripts that use them.
-/

namespace Postroom.Unicode

/-- The four-letter code of each script and its long name. -/
def scriptNames : List (String × String) :=
  [("Adlm", "Adlam"), ("Ahom", "Ahom"), ("Hluw", "Anatolian_Hieroglyphs"),
   ("Arab", "Arabic"), ("Armn", "Armenian"), ("Avst", "Avestan"),
   ("Bali", "Balinese"), ("Bamu", "Bamum"), ("Bass", "Bassa_Vah"),
   ("Batk", "Batak"), ("Beng", "Bengali"), ("Bhks", "Bhaiksuki"),
   ("Bopo", "Bopomofo"), ("Brah", "Brahmi"), ("Brai", "Braille"),
   ("Bugi", "Buginese"), ("Buhd", "Buhid"), ("Cans", "Canadian_Aboriginal"),
   ("Cari", "Carian"), ("Aghb", "Caucasian_Albanian"), ("Cakm", "Chakma"),
   ("Cham", "Cham"), ("Cher", "Cherokee"), ("Chrs", "Chorasmian"),
   ("Zyyy", "Common"), ("Copt", "Coptic"), ("Xsux", "Cuneiform"),
   ("Cprt", "Cypriot"), ("Cpmn", "Cypro_Minoan"), ("Cyrl", "Cyrillic"),
   ("Dsrt", "Deseret"), ("Deva", "Devanagari"), ("Diak", "Dives_Akuru"),
   ("Dogr", "Dogra"), ("Dupl", "Duployan"), ("Egyp", "Egyptian_Hieroglyphs"),
   ("Elba", "Elbasan"), ("Elym", "Elymaic"), ("Ethi", "Ethiopic"),
   ("Gara", "Garay"), ("Geor", "Georgian"), ("Glag", "Glagolitic"),
   ("Goth", "Gothic"), ("Gran", "Grantha"), ("Grek", "Greek"),
   ("Gujr", "Gujarati"), ("Gong", "Gunjala_Gondi"), ("Guru", "Gurmukhi"),
   ("Gukh", "Gurung_Khema"), ("Hani", "Han"), ("Hang", "Hangul"),
   ("Rohg", "Hanifi_Rohingya"), ("Hano", "Hanunoo"), ("Hatr", "Hatran"),
   ("Hebr", "Hebrew"), ("Hira", "Hiragana"), ("Armi", "Imperial_Aramaic"),
   ("Zinh", "Inherited"), ("Phli", "Inscriptional_Pahlavi"), ("Prti", "Inscriptional_Parthian"),
   ("Java", "Javanese"), ("Kthi", "Kaithi"), ("Knda", "Kannada"),
   ("Kana", "Katakana"), ("Kawi", "Kawi"), ("Kali", "Kayah_Li"),
   ("Khar", "Kharoshthi"), ("Kits", "Khitan_Small_Script"), ("Khmr", "Khmer"),
   ("Khoj", "Khojki"), ("Sind", "Khudawadi"), ("Krai", "Kirat_Rai"),
   ("Laoo", "Lao"), ("Latn", "Latin"), ("Lepc", "Lepcha"),
   ("Limb", "Limbu"), ("Lina", "Linear_A"), ("Linb", "Linear_B"),
   ("Lisu", "Lisu"), ("Lyci", "Lycian"), ("Lydi", "Lydian"),
   ("Mahj", "Mahajani"), ("Maka", "Makasar"), ("Mlym", "Malayalam"),
   ("Mand", "Mandaic"), ("Mani", "Manichaean"), ("Marc", "Marchen"),
   ("Gonm", "Masaram_Gondi"), ("Medf", "Medefaidrin"), ("Mtei", "Meetei_Mayek"),
   ("Mend", "Mende_Kikakui"), ("Merc", "Meroitic_Cursive"), ("Mero", "Meroitic_Hieroglyphs"),
   ("Plrd", "Miao"), ("Modi", "Modi"), ("Mong", "Mongolian"),
   ("Mroo", "Mro"), ("Mult", "Multani"), ("Mymr", "Myanmar"),
   ("Nbat", "Nabataean"), ("Nagm", "Nag_Mundari"), ("Nand", "Nandinagari"),
   ("Talu", "New_Tai_Lue"), ("Newa", "Newa"), ("Nkoo", "Nko"),
   ("Nshu", "Nushu"), ("Hmnp", "Nyiakeng_Puachue_Hmong"), ("Ogam", "Ogham"),
   ("Olck", "Ol_Chiki"), ("Onao", "Ol_Onal"), ("Hung", "Old_Hungarian"),
   ("Ital", "Old_Italic"), ("Narb", "Old_North_Arabian"), ("Perm", "Old_Permic"),
   ("Xpeo", "Old_Persian"), ("Sogo", "Old_Sogdian"), ("Sarb", "Old_South_Arabian"),
   ("Orkh", "Old_Turkic"), ("Ougr", "Old_Uyghur"), ("Orya", "Oriya"),
   ("Osge", "Osage"), ("Osma", "Osmanya"), ("Hmng", "Pahawh_Hmong"),
   ("Palm", "Palmyrene"), ("Pauc", "Pau_Cin_Hau"), ("Phag", "Phags_Pa"),
   ("Phnx", "Phoenician"), ("Phlp", "Psalter_Pahlavi"), ("Rjng", "Rejang"),
   ("Runr", "Runic"), ("Samr", "Samaritan"), ("Saur", "Saurashtra"),
   ("Shrd", "Sharada"), ("Shaw", "Shavian"), ("Sidd", "Siddham"),
   ("Sgnw", "SignWriting"), ("Sinh", "Sinhala"), ("Sogd", "Sogdian"),
   ("Sora", "Sora_Sompeng"), ("Soyo", "Soyombo"), ("Sund", "Sundanese"),
   ("Sunu", "Sunuwar"), ("Sylo", "Syloti_Nagri"), ("Syrc", "Syriac"),
   ("Tglg", "Tagalog"), ("Tagb", "Tagbanwa"), ("Tale", "Tai_Le"),
   ("Lana", "Tai_Tham"), ("Tavt", "Tai_Viet"), ("Takr", "Takri"),
   ("Taml", "Tamil"), ("Tnsa", "Tangsa"), ("Tang", "Tangut"),
   ("Telu", "Telugu"), ("Thaa", "Thaana"), ("Thai", "Thai"),
   ("Tibt", "Tibetan"), ("Tfng", "Tifinagh"), ("Tirh", "Tirhuta"),
   ("Todr", "Todhri"), ("Toto", "Toto"), ("Tutg", "Tulu_Tigalari"),
   ("Ugar", "Ugaritic"), ("Vaii", "Vai"), ("Vith", "Vithkuqi"),
   ("Wcho", "Wancho"), ("Wara", "Warang_Citi"), ("Yezi", "Yezidi"),
   ("Yiii", "Yi"), ("Zanb", "Zanabazar_Square")]

/-- The scripts of all code points: the length of a run and its script, from U+0000 on. -/
def scriptRuns : String :=
  "65Zyyy26Latn6Zyyy26Latn47Zyyy1Latn15Zyyy1Latn5Zyyy23Latn1Zyyy31Latn1Zyyy449Latn39Zyyy5Latn5Z
   yyy2Bopo20Zyyy112Zinh4Grek1Zyyy3Grek2Zzzz4Grek1Zyyy1Grek4Zzzz1Grek1Zyyy1Grek1Zyyy3Grek1Zzzz1
   Grek1Zzzz20Grek1Zzzz63Grek14Copt16Grek133Cyrl2Zinh169Cyrl1Zzzz38Armn2Zzzz50Armn2Zzzz3Armn1Zz
   zz55Hebr8Zzzz27Hebr4Zzzz6Hebr11Zzzz5Arab1Zyyy6Arab1Zyyy14Arab1Zyyy3Arab1Zyyy32Arab1Zyyy10Ara
   b11Zinh26Arab1Zinh108Arab1Zyyy34Arab14Syrc1Zzzz60Syrc2Zzzz3Syrc48Arab50Thaa14Zzzz59Nkoo2Zzzz
   3Nkoo46Samr2Zzzz15Samr1Zzzz28Mand2Zzzz1Mand1Zzzz11Syrc5Zzzz31Arab1Zzzz2Arab5Zzzz75Arab1Zyyy2
   9Arab81Deva4Zinh15Deva2Zyyy26Deva4Beng1Zzzz8Beng2Zzzz2Beng2Zzzz22Beng1Zzzz7Beng1Zzzz1Beng3Zz
   zz4Beng2Zzzz9Beng2Zzzz2Beng2Zzzz4Beng8Zzzz1Beng4Zzzz2Beng1Zzzz5Beng2Zzzz25Beng2Zzzz3Guru1Zzz
   z6Guru4Zzzz2Guru2Zzzz22Guru1Zzzz7Guru1Zzzz2Guru1Zzzz2Guru1Zzzz2Guru2Zzzz1Guru1Zzzz5Guru4Zzzz
   2Guru2Zzzz3Guru3Zzzz1Guru7Zzzz4Guru1Zzzz1Guru7Zzzz17Guru10Zzzz3Gujr1Zzzz9Gujr1Zzzz3Gujr1Zzzz
   22Gujr1Zzzz7Gujr1Zzzz2Gujr1Zzzz5Gujr2Zzzz10Gujr1Zzzz3Gujr1Zzzz3Gujr2Zzzz1Gujr15Zzzz4Gujr2Zzz
   z12Gujr7Zzzz7Gujr1Zzzz3Orya1Zzzz8Orya2Zzzz2Orya2Zzzz22Orya1Zzzz7Orya1Zzzz2Orya1Zzzz5Orya2Zzz
   z9Orya2Zzzz2Orya2Zzzz3Orya7Zzzz3Orya4Zzzz2Orya1Zzzz5Orya2Zzzz18Orya10Zzzz2Taml1Zzzz6Taml3Zzz
   z3Taml1Zzzz4Taml3Zzzz2Taml1Zzzz1Taml1Zzzz2Taml3Zzzz2Taml3Zzzz3Taml3Zzzz12Taml4Zzzz5Taml3Zzzz
   3Taml1Zzzz4Taml2Zzzz1Taml6Zzzz1Taml14Zzzz21Taml5Zzzz13Telu1Zzzz3Telu1Zzzz23Telu1Zzzz16Telu2Z
   zzz9Telu1Zzzz3Telu1Zzzz4Telu7Zzzz2Telu1Zzzz3Telu2Zzzz1Telu2Zzzz4Telu2Zzzz10Telu7Zzzz9Telu13K
   nda1Zzzz3Knda1Zzzz23Knda1Zzzz10Knda1Zzzz5Knda2Zzzz9Knda1Zzzz3Knda1Zzzz4Knda7Zzzz2Knda6Zzzz2K
   nda1Zzzz4Knda2Zzzz10Knda1Zzzz3Knda12Zzzz13Mlym1Zzzz3Mlym1Zzzz51Mlym1Zzzz3Mlym1Zzzz6Mlym4Zzzz
   16Mlym2Zzzz26Mlym1Zzzz3Sinh1Zzzz18Sinh3Zzzz24Sinh1Zzzz9Sinh1Zzzz1Sinh2Zzzz7Sinh3Zzzz1Sinh4Zz
   zz6Sinh1Zzzz1Sinh1Zzzz8Sinh6Zzzz10Sinh2Zzzz3Sinh12Zzzz58Thai4Zzzz1Zyyy28Thai37Zzzz2Laoo1Zzzz
   1Laoo1Zzzz5Laoo1Zzzz24Laoo1Zzzz1Laoo1Zzzz23Laoo2Zzzz5Laoo1Zzzz1Laoo1Zzzz7Laoo1Zzzz10Laoo2Zzz
   z4Laoo32Zzzz72Tibt1Zzzz36Tibt4Zzzz39Tibt1Zzzz36Tibt1Zzzz15Tibt1Zzzz7Tibt4Zyyy2Tibt37Zzzz160M
   ymr38Geor1Zzzz1Geor5Zzzz1Geor2Zzzz43Geor1Zyyy4Geor256Hang73Ethi1Zzzz4Ethi2Zzzz7Ethi1Zzzz1Eth
   i1Zzzz4Ethi2Zzzz41Ethi1Zzzz4Ethi2Zzzz33Ethi1Zzzz4Ethi2Zzzz7Ethi1Zzzz1Ethi1Zzzz4Ethi2Zzzz15Et
   hi1Zzzz57Ethi1Zzzz4Ethi2Zzzz67Ethi2Zzzz32Ethi3Zzzz26Ethi6Zzzz86Cher2Zzzz6Cher2Zzzz640Cans29O
   gam3Zzzz75Runr3Zyyy11Runr7Zzzz22Tglg9Zzzz1Tglg21Hano2Zyyy9Zzzz20Buhd12Zzzz13Tagb1Zzzz3Tagb1Z
   zzz2Tagb12Zzzz94Khmr2Zzzz10Khmr6Zzzz10Khmr6Zzzz2Mong2Zyyy1Mong1Zyyy20Mong6Zzzz89Mong7Zzzz43M
   ong5Zzzz70Cans10Zzzz31Limb1Zzzz12Limb4Zzzz12Limb4Zzzz1Limb3Zzzz12Limb30Tale2Zzzz5Tale11Zzzz4
   4Talu4Zzzz26Talu6Zzzz11Talu3Zzzz2Talu32Khmr28Bugi2Zzzz2Bugi63Lana1Zzzz29Lana2Zzzz11Lana6Zzzz
   10Lana6Zzzz14Lana2Zzzz31Zinh49Zzzz77Bali1Zzzz50Bali64Sund52Batk8Zzzz4Batk56Lepc3Zzzz15Lepc3Z
   zzz3Lepc48Olck11Cyrl5Zzzz43Geor2Zzzz3Geor8Sund8Zzzz3Zinh1Zyyy13Zinh1Zyyy7Zinh4Zyyy1Zinh6Zyyy
   1Zinh3Zyyy2Zinh1Zyyy5Zzzz38Latn5Grek1Cyrl49Latn5Grek4Latn5Grek13Latn1Cyrl70Latn1Grek64Zinh25
   6Latn22Grek2Zzzz6Grek2Zzzz38Grek2Zzzz6Grek2Zzzz8Grek1Zzzz1Grek1Zzzz1Grek1Zzzz1Grek1Zzzz31Gre
   k2Zzzz53Grek1Zzzz15Grek1Zzzz14Grek2Zzzz6Grek1Zzzz19Grek2Zzzz3Grek1Zzzz9Grek1Zzzz12Zyyy2Zinh8
   7Zyyy1Zzzz11Zyyy1Latn2Zzzz11Zyyy1Latn15Zyyy1Zzzz13Latn3Zzzz33Zyyy15Zzzz33Zinh15Zzzz38Zyyy1Gr
   ek3Zyyy2Latn6Zyyy1Latn27Zyyy1Latn17Zyyy41Latn3Zyyy4Zzzz666Zyyy22Zzzz11Zyyy21Zzzz928Zyyy256Br
   ai628Zyyy2Zzzz32Zyyy1Zzzz105Zyyy96Glag32Latn116Copt5Zzzz7Copt38Geor1Zzzz1Geor5Zzzz1Geor2Zzzz
   56Tfng7Zzzz2Tfng14Zzzz1Tfng23Ethi9Zzzz7Ethi1Zzzz7Ethi1Zzzz7Ethi1Zzzz7Ethi1Zzzz7Ethi1Zzzz7Eth
   i1Zzzz7Ethi1Zzzz7Ethi1Zzzz32Cyrl94Zyyy34Zzzz26Hani1Zzzz89Hani12Zzzz214Hani26Zzzz21Zyyy1Hani1
   Zyyy1Hani25Zyyy9Hani4Zinh2Hang8Zyyy4Hani4Zyyy1Zzzz86Hira2Zzzz2Zinh2Zyyy3Hira1Zyyy90Kana2Zyyy
   3Kana5Zzzz43Bopo1Zzzz94Hang1Zzzz16Zyyy32Bopo38Zyyy9Zzzz1Zyyy16Kana31Hang1Zzzz64Zyyy31Hang81Z
   yyy47Kana1Zyyy88Kana168Zyyy6592Hani64Zyyy20992Hani1165Yiii3Zzzz55Yiii9Zzzz48Lisu300Vaii20Zzz
   z96Cyrl88Bamu8Zzzz34Zyyy102Latn3Zyyy67Latn2Zzzz2Latn1Zzzz1Latn1Zzzz8Latn21Zzzz14Latn45Sylo3Z
   zzz10Zyyy6Zzzz56Phag8Zzzz70Saur8Zzzz12Saur6Zzzz32Deva46Kali1Zyyy1Kali36Rjng11Zzzz1Rjng29Hang
   3Zzzz78Java1Zzzz1Zyyy10Java4Zzzz2Java31Mymr1Zzzz55Cham9Zzzz14Cham2Zzzz10Cham2Zzzz4Cham32Mymr
   67Tavt24Zzzz5Tavt23Mtei10Zzzz6Ethi2Zzzz6Ethi2Zzzz6Ethi9Zzzz7Ethi1Zzzz7Ethi1Zzzz43Latn1Zyyy9L
   atn1Grek4Latn2Zyyy4Zzzz80Cher46Mtei2Zzzz10Mtei6Zzzz11172Hang12Zzzz23Hang4Zzzz49Hang8452Zzzz3
   66Hani2Zzzz106Hani38Zzzz7Latn12Zzzz5Armn5Zzzz26Hebr1Zzzz5Hebr1Zzzz1Hebr1Zzzz2Hebr1Zzzz2Hebr1
   Zzzz10Hebr115Arab16Zzzz363Arab2Zyyy80Arab2Zzzz54Arab7Zzzz1Arab32Zzzz16Arab16Zinh10Zyyy6Zzzz1
   4Zinh2Cyrl35Zyyy1Zzzz19Zyyy1Zzzz4Zyyy4Zzzz5Arab1Zzzz135Arab2Zzzz1Zyyy1Zzzz32Zyyy26Latn6Zyyy2
   6Latn11Zyyy10Kana1Zyyy45Kana2Zyyy31Hang3Zzzz6Hang2Zzzz6Hang2Zzzz6Hang2Zzzz3Hang3Zzzz7Zyyy1Zz
   zz7Zyyy10Zzzz5Zyyy2Zzzz12Linb1Zzzz26Linb1Zzzz19Linb1Zzzz2Linb1Zzzz15Linb2Zzzz14Linb34Zzzz123
   Linb5Zzzz3Zyyy4Zzzz45Zyyy3Zzzz9Zyyy79Grek1Zzzz13Zyyy3Zzzz1Grek47Zzzz45Zyyy1Zinh130Zzzz29Lyci
   3Zzzz49Cari15Zzzz1Zinh27Zyyy4Zzzz36Ital9Zzzz3Ital27Goth5Zzzz43Perm5Zzzz30Ugar1Zzzz1Ugar36Xpe
   o4Zzzz14Xpeo42Zzzz80Dsrt48Shaw30Osma2Zzzz10Osma6Zzzz36Osge4Zzzz36Osge4Zzzz40Elba8Zzzz52Aghb1
   1Zzzz1Aghb11Vith1Zzzz15Vith1Zzzz7Vith1Zzzz2Vith1Zzzz11Vith1Zzzz15Vith1Zzzz7Vith1Zzzz2Vith3Zz
   zz52Todr12Zzzz311Lina9Zzzz22Lina10Zzzz8Lina24Zzzz6Latn1Zzzz42Latn1Zzzz9Latn69Zzzz6Cprt2Zzzz1
   Cprt1Zzzz44Cprt1Zzzz2Cprt3Zzzz1Cprt2Zzzz1Cprt22Armi1Zzzz9Armi32Palm31Nbat8Zzzz9Nbat48Zzzz19H
   atr1Zzzz2Hatr5Zzzz5Hatr28Phnx3Zzzz1Phnx26Lydi5Zzzz1Lydi64Zzzz32Mero24Merc4Zzzz20Merc2Zzzz46M
   erc4Khar1Zzzz2Khar5Zzzz8Khar1Zzzz3Khar1Zzzz29Khar2Zzzz3Khar4Zzzz10Khar7Zzzz9Khar7Zzzz32Sarb3
   2Narb32Zzzz39Mani4Zzzz12Mani9Zzzz54Avst3Zzzz7Avst22Prti2Zzzz8Prti19Phli5Zzzz8Phli18Phlp7Zzzz
   4Phlp12Zzzz7Phlp80Zzzz73Orkh55Zzzz51Hung13Zzzz51Hung7Zzzz6Hung40Rohg8Zzzz10Rohg6Zzzz38Gara3Z
   zzz29Gara8Zzzz2Gara208Zzzz31Arab1Zzzz42Yezi1Zzzz3Yezi2Zzzz2Yezi16Zzzz3Arab55Zzzz4Arab40Sogo8
   Zzzz42Sogd22Zzzz26Ougr38Zzzz28Chrs20Zzzz23Elym9Zzzz78Brah4Zzzz36Brah9Zzzz1Brah67Kthi10Zzzz1K
   thi2Zzzz25Sora7Zzzz10Sora6Zzzz53Cakm1Zzzz18Cakm8Zzzz39Mahj9Zzzz96Shrd1Zzzz20Sinh11Zzzz18Khoj
   1Zzzz47Khoj62Zzzz7Mult1Zzzz1Mult1Zzzz4Mult1Zzzz15Mult1Zzzz11Mult6Zzzz59Sind5Zzzz10Sind6Zzzz4
   Gran1Zzzz8Gran2Zzzz2Gran2Zzzz22Gran1Zzzz7Gran1Zzzz2Gran1Zzzz5Gran1Zzzz1Zinh9Gran2Zzzz2Gran2Z
   zzz3Gran2Zzzz1Gran6Zzzz1Gran5Zzzz7Gran2Zzzz7Gran3Zzzz5Gran11Zzzz10Tutg1Zzzz1Tutg2Zzzz1Tutg1Z
   zzz38Tutg1Zzzz10Tutg1Zzzz1Tutg2Zzzz1Tutg1Zzzz4Tutg1Zzzz10Tutg1Zzzz2Tutg8Zzzz2Tutg29Zzzz92New
   a1Zzzz5Newa30Zzzz72Tirh8Zzzz10Tirh166Zzzz54Sidd2Zzzz38Sidd34Zzzz69Modi11Zzzz10Modi6Zzzz13Mon
   g19Zzzz58Takr6Zzzz10Takr6Zzzz20Mymr28Zzzz27Ahom2Zzzz15Ahom4Zzzz23Ahom185Zzzz60Dogr100Zzzz83W
   ara12Zzzz1Wara7Diak2Zzzz1Diak2Zzzz8Diak1Zzzz2Diak1Zzzz30Diak1Zzzz2Diak2Zzzz12Diak9Zzzz10Diak
   70Zzzz8Nand2Zzzz46Nand2Zzzz11Nand27Zzzz72Zanb8Zzzz83Soyo13Zzzz16Cans57Pauc7Zzzz10Deva182Zzzz
   34Sunu14Zzzz10Sunu6Zzzz9Bhks1Zzzz45Bhks1Zzzz14Bhks10Zzzz29Bhks3Zzzz32Marc2Zzzz22Marc1Zzzz14M
   arc73Zzzz7Gonm1Zzzz2Gonm1Zzzz44Gonm3Zzzz1Gonm1Zzzz2Gonm1Zzzz9Gonm8Zzzz10Gonm6Zzzz6Gong1Zzzz2
   Gong1Zzzz37Gong1Zzzz2Gong1Zzzz6Gong7Zzzz10Gong310Zzzz25Maka7Zzzz17Kawi1Zzzz41Kawi3Zzzz29Kawi
   85Zzzz1Lisu15Zzzz50Taml13Zzzz1Taml922Xsux102Zzzz111Xsux1Zzzz5Xsux11Zzzz196Xsux2636Zzzz99Cpmn
   13Zzzz1110Egyp10Zzzz3995Egyp5Zzzz583Hluw6841Zzzz58Gukh1734Zzzz569Bamu7Zzzz31Mroo1Zzzz10Mroo4
   Zzzz2Mroo79Tnsa1Zzzz10Tnsa6Zzzz30Bass2Zzzz6Bass10Zzzz70Hmng10Zzzz10Hmng1Zzzz7Hmng1Zzzz21Hmng
   5Zzzz19Hmng432Zzzz58Krai198Zzzz91Medf101Zzzz75Plrd4Zzzz57Plrd7Zzzz17Plrd64Zzzz1Tang1Nshu2Han
   i1Kits11Zzzz2Hani14Zzzz6136Tang8Zzzz768Tang470Kits41Zzzz1Kits9Tang8935Zzzz4Kana1Zzzz7Kana1Zz
   zz2Kana1Zzzz1Kana287Hira3Kana15Zzzz1Hira29Zzzz3Hira2Zzzz1Kana14Zzzz4Kana8Zzzz396Nshu2308Zzzz
   107Dupl5Zzzz13Dupl3Zzzz9Dupl7Zzzz10Dupl2Zzzz4Dupl4Zyyy3932Zzzz250Zyyy6Zzzz436Zyyy76Zzzz46Zin
   h2Zzzz23Zinh9Zzzz116Zyyy60Zzzz246Zyyy10Zzzz39Zyyy2Zzzz62Zyyy3Zinh17Zyyy8Zinh2Zyyy7Zinh30Zyyy
   4Zinh61Zyyy21Zzzz70Grek122Zzzz20Zyyy12Zzzz20Zyyy12Zzzz87Zyyy9Zzzz25Zyyy135Zzzz85Zyyy1Zzzz71Z
   yyy1Zzzz2Zyyy2Zzzz1Zyyy2Zzzz2Zyyy2Zzzz4Zyyy1Zzzz12Zyyy1Zzzz1Zyyy1Zzzz7Zyyy1Zzzz65Zyyy1Zzzz4Z
   yyy2Zzzz8Zyyy1Zzzz7Zyyy1Zzzz28Zyyy1Zzzz4Zyyy1Zzzz5Zyyy1Zzzz1Zyyy3Zzzz7Zyyy1Zzzz340Zyyy2Zzzz2
   92Zyyy2Zzzz50Zyyy652Sgnw15Zzzz5Sgnw1Zzzz15Sgnw1104Zzzz31Latn6Zzzz6Latn213Zzzz7Glag1Zzzz17Gla
   g2Zzzz7Glag1Zzzz2Glag1Zzzz5Glag5Zzzz62Cyrl33Zzzz1Cyrl112Zzzz45Hmnp3Zzzz14Hmnp2Zzzz10Hmnp4Zzz
   z2Hmnp320Zzzz31Toto17Zzzz58Wcho5Zzzz1Wcho464Zzzz42Nagm214Zzzz43Onao4Zzzz1Onao480Zzzz7Ethi1Zz
   zz4Ethi1Zzzz2Ethi1Zzzz15Ethi1Zzzz197Mend2Zzzz16Mend41Zzzz76Adlm4Zzzz10Adlm4Zzzz2Adlm785Zzzz6
   8Zyyy76Zzzz61Zyyy194Zzzz4Arab1Zzzz27Arab1Zzzz2Arab1Zzzz1Arab2Zzzz1Arab1Zzzz10Arab1Zzzz4Arab1
   Zzzz1Arab1Zzzz1Arab6Zzzz1Arab4Zzzz1Arab1Zzzz1Arab1Zzzz1Arab1Zzzz3Arab1Zzzz2Arab1Zzzz1Arab2Zz
   zz1Arab1Zzzz1Arab1Zzzz1Arab1Zzzz1Arab1Zzzz1Arab1Zzzz2Arab1Zzzz1Arab2Zzzz4Arab1Zzzz7Arab1Zzzz
   4Arab1Zzzz4Arab1Zzzz1Arab1Zzzz10Arab1Zzzz17Arab5Zzzz3Arab1Zzzz5Arab1Zzzz17Arab52Zzzz2Arab270
   Zzzz44Zyyy4Zzzz100Zyyy12Zzzz15Zyyy2Zzzz15Zyyy1Zzzz15Zyyy1Zzzz37Zyyy10Zzzz174Zyyy56Zzzz26Zyyy
   1Hira2Zyyy13Zzzz44Zyyy4Zzzz9Zyyy7Zzzz2Zyyy14Zzzz6Zyyy154Zzzz984Zyyy4Zzzz17Zyyy3Zzzz13Zyyy3Zz
   zz119Zyyy4Zzzz95Zyyy6Zzzz12Zyyy4Zzzz1Zyyy15Zzzz12Zyyy4Zzzz56Zyyy8Zzzz10Zyyy6Zzzz40Zyyy8Zzzz3
   0Zyyy2Zzzz12Zyyy4Zzzz2Zyyy62Zzzz340Zyyy12Zzzz14Zyyy2Zzzz13Zyyy3Zzzz10Zyyy5Zzzz56Zyyy7Zzzz15Z
   yyy2Zzzz11Zyyy6Zzzz9Zyyy7Zzzz147Zyyy1Zzzz102Zyyy1030Zzzz42720Hani32Zzzz4154Hani6Zzzz222Hani2
   Zzzz5762Hani14Zzzz7473Hani15Zzzz622Hani2466Zzzz542Hani1506Zzzz4939Hani5Zzzz4192Hani711761Zzz
   z1Zyyy30Zzzz96Zyyy128Zzzz240Zinh196112Zzzz"

/-- The first code point of each run, with the code of its script. -/
def scriptTable : Array (Nat × Text) :=
  Runs.ofText scriptRuns.toList

/-- The code points whose script has this code. -/
def scriptSet (code : Text) : CodeSet :=
  Runs.toSet scriptTable (· == code)

/-! ## Shared characters -/

/-- The characters that are not used by their own script alone: the codes of the scripts that use
them, and the lengths of the stretches outside and inside. -/
def sharedRuns : List (String × String) :=
  [("Avst Cari Copt Dupl Elba Geor Glag Gong Goth Grek Hani Latn Lydi Mahj Perm Shaw",
    "183 1"),
   ("Beng Cyrl Deva Latn Lisu Thai Toto",
    "700 1"),
   ("Bopo Latn",
    "711 1 1 3 13 1"),
   ("Latn Lisu",
    "717 1"),
   ("Latn Thai",
    "727 1"),
   ("Cher Copt Cyrl Grek Latn Perm Sunu Tale",
    "768 1"),
   ("Cher Cyrl Grek Latn Osge Sunu Tale Todr",
    "769 1"),
   ("Cher Cyrl Latn Tfng",
    "770 1"),
   ("Glag Latn Sunu Syrc Thai",
    "771 1"),
   ("Aghb Cher Copt Cyrl Goth Grek Latn Osge Syrc Tfng Todr",
    "772 1"),
   ("Copt Elba Glag Goth Kana Latn",
    "773 1"),
   ("Cyrl Grek Latn Perm",
    "774 1"),
   ("Copt Dupl Hebr Latn Perm Syrc Tale Tfng Todr",
    "775 1"),
   ("Armn Cyrl Dupl Goth Grek Hebr Latn Perm Syrc Tale",
    "776 1"),
   ("Latn Tfng",
    "777 1"),
   ("Dupl Latn Syrc",
    "778 1"),
   ("Cher Cyrl Latn Osge",
    "779 1"),
   ("Cher Latn Tale",
    "780 1"),
   ("Latn Sunu",
    "781 1 2 1"),
   ("Ethi Latn",
    "782 1"),
   ("Cyrl Latn Todr",
    "785 1"),
   ("Grek Latn Perm Todr",
    "787 1"),
   ("Latn Syrc",
    "800 1 4 1 8 1"),
   ("Cher Dupl Kana Latn Syrc",
    "803 1"),
   ("Cher Dupl Latn Syrc",
    "804 1"),
   ("Latn Sunu Syrc",
    "813 1"),
   ("Cher Latn Syrc",
    "816 1"),
   ("Aghb Cher Goth Latn Sunu Thai",
    "817 1"),
   ("Grek",
    "834 1 2 1 6778 2"),
   ("Latn Osge",
    "856 1"),
   ("Aghb Latn Todr",
    "862 1"),
   ("Latn",
    "867 13"),
   ("Copt Grek",
    "884 2"),
   ("Cyrl Perm",
    "1155 1"),
   ("Cyrl Glag",
    "1156 1 2 1 10683 1 30763 1"),
   ("Cyrl Latn",
    "1157 2"),
   ("Armn Geor Glag",
    "1417 1"),
   ("Arab Gara Nkoo Rohg Syrc Thaa Yezi",
    "1548 1 14 1"),
   ("Arab Syrc Thaa",
    "1564 1"),
   ("Adlm Arab Gara Nkoo Rohg Syrc Thaa Yezi",
    "1567 1"),
   ("Adlm Arab Mand Mani Ougr Phlp Rohg Sogd Syrc",
    "1600 1"),
   ("Arab Syrc",
    "1611 11 26 1"),
   ("Arab Thaa Yezi",
    "1632 10"),
   ("Arab Rohg",
    "1748 1"),
   ("Beng Deva Gran Gujr Guru Knda Latn Mlym Orya Shrd Taml Telu Tirh",
    "2385 1"),
   ("Beng Deva Gran Gujr Guru Knda Latn Mlym Orya Taml Telu Tirh",
    "2386 1"),
   ("Beng Deva Dogr Gong Gonm Gran Gujr Guru Knda Mahj Mlym Nand Onao Orya Sind Sinh Sylo Takr
    Taml Telu Tirh",
    "2404 1"),
   ("Beng Deva Dogr Gong Gonm Gran Gujr Gukh Guru Knda Limb Mahj Mlym Nand Onao Orya Sind Sinh
    Sylo Takr Taml Telu Tirh",
    "2405 1"),
   ("Deva Dogr Kthi Mahj",
    "2406 10"),
   ("Beng Cakm Sylo",
    "2534 10"),
   ("Guru Mult",
    "2662 10"),
   ("Gujr Khoj",
    "2790 10"),
   ("Gran Taml",
    "3046 14 67341 1 1 1 55 2 3219 2 1 1"),
   ("Knda Nand Tutg",
    "3302 10"),
   ("Cakm Mymr Tale",
    "4160 10"),
   ("Geor Glag Latn",
    "4347 1"),
   ("Runr",
    "5867 3"),
   ("Buhd Hano Tagb Tglg",
    "5941 2"),
   ("Mong Phag",
    "6146 2 1 1"),
   ("Beng Deva Gran Knda",
    "7376 1 1 1"),
   ("Deva",
    "7377 1 2 1 6 1 2 2 2 7 2 2 1 4"),
   ("Deva Gran Knda",
    "7379 1"),
   ("Beng Deva",
    "7381 2 1 1 8 1 8 1 2 1 7 2"),
   ("Deva Shrd",
    "7383 1 1 1 2 2 2 1"),
   ("Deva Knda Mlym Orya Taml Telu",
    "7386 1"),
   ("Deva Nand",
    "7401 1"),
   ("Beng Deva Gran Knda Mlym Nand Orya Sinh Telu Tirh Tutg",
    "7410 1"),
   ("Deva Gran",
    "7411 1 4 2"),
   ("Deva Gran Knda Tutg",
    "7412 1"),
   ("Beng",
    "7415 1"),
   ("Nand",
    "7418 1"),
   ("Cyrl Latn Syrc",
    "7672 1"),
   ("Syrc",
    "7674 1"),
   ("Latn Mong Phag",
    "8239 1"),
   ("Adlm Arab",
    "8271 1"),
   ("Cari Geor Glag Hung Lyci Orkh",
    "8282 1"),
   ("Cari Grek Hung Mero",
    "8285 1"),
   ("Deva Gran Latn",
    "8432 1"),
   ("Copt Latn",
    "11799 1"),
   ("Avst Orkh",
    "11824 1"),
   ("Avst Cari Geor Hung Kthi Lydi Samr",
    "11825 1"),
   ("Dupl",
    "11836 1 101987 4"),
   ("Adlm Arab Hung",
    "11841 1"),
   ("Hani Tang",
    "12272 16 495 1"),
   ("Bopo Hang Hani Hira Kana Mong Yiii",
    "12289 1"),
   ("Bopo Hang Hani Hira Kana Mong Phag Yiii",
    "12290 1"),
   ("Bopo Hang Hani Hira Kana",
    "12291 1 15 1 8 4 16 1 6 1 52749 2"),
   ("Hani",
    "12294 1 55 2 336 16 32 38 58 40 56 49 15 12 51 1 88 25 10 5 96 31 106337 18 7902 2"),
   ("Bopo Hang Hani Hira Kana Mong Tibt Yiii",
    "12296 2"),
   ("Bopo Hang Hani Hira Kana Lisu Mong Tibt Yiii",
    "12298 2"),
   ("Bopo Hang Hani Hira Kana Yiii",
    "12300 6 2 8 223 1 52837 5"),
   ("Bopo Hani",
    "12330 4"),
   ("Hira Kana",
    "12337 5 99 4 3 1 91 1 52851 1 45 2"),
   ("Hani Hira Kana",
    "12348 2"),
   ("Hani Latn",
    "42752 8"),
   ("Deva Dogr Gujr Guru Khoj Knda Kthi Mahj Mlym Modi Nand Shrd Sind Takr Tirh Tutg",
    "43056 3"),
   ("Deva Dogr Gujr Guru Khoj Knda Kthi Mahj Modi Nand Shrd Sind Takr Tirh Tutg",
    "43059 3"),
   ("Deva Dogr Gujr Guru Khoj Kthi Mahj Modi Sind Takr Tirh",
    "43062 2 1 1"),
   ("Deva Dogr Gujr Guru Khoj Kthi Mahj Modi Shrd Sind Takr Tirh",
    "43064 1"),
   ("Beng Deva Tutg",
    "43249 1"),
   ("Deva Taml",
    "43251 1"),
   ("Kali Latn Mymr",
    "43310 1"),
   ("Bugi Java",
    "43471 1"),
   ("Arab Nkoo",
    "64830 2"),
   ("Arab Thaa",
    "65010 1 10 1"),
   ("Cpmn Cprt Linb",
    "65792 2"),
   ("Cprt Linb",
    "65794 1 52 9"),
   ("Cprt Lina Linb",
    "65799 45"),
   ("Arab Copt",
    "66272 28"),
   ("Mani Ougr",
    "68338 1")]

/-- The shared characters: the codes of the scripts that use them, and the characters. -/
def sharedSets : List (List Text × CodeSet) :=
  sharedRuns.map fun row =>
    (Text.pieces (fun c => c == ' ' || c == '\n') row.1.toList, .ofLengths row.2)

/-- The code points that the script of this code uses, alone or with others. -/
def usedBy (code : Text) : CodeSet :=
  let own := (scriptSet code).diff (.unions (sharedSets.map (·.2)))
  .union own (.unions ((sharedSets.filter fun row => row.1.contains code).map (·.2)))

end Postroom.Unicode

import NamePattern.CharRegex.Packed

/-! The scripts that characters belong to. -/
namespace NamePattern.CharRegex.Property

/-- Scripts. -/
def scripts : List Property :=
  [⟨["adlm", "adlam"], ["bdb4i24941"]⟩,
   ⟨["aghb", "caucasianalbanian"], ["xmc2p1B0"]⟩,
   ⟨["ahom"], ["Vfh2Q2E4M"]⟩,
   ⟨["arab", "arabic"],
    ["mn14151D121V119BP1j31X1n2l1s7U115h21SWmX2q3GqB2m22r170W1Fo341f4XY4Ua22t13mhx131Q111020191",
     "3101060401010121110201010101011102316131310191G52141Gq11"]⟩,
   ⟨["armi", "imperialaramaic"], ["bhd2L18"]⟩,
   ⟨["armn", "armenian"], ["wg1b12n122jhY24"]⟩,
   ⟨["avst", "avestan"], ["xYe2r136"]⟩,
   ⟨["bali", "balinese"], ["za7j21n1"]⟩,
   ⟨["bamu", "bamum"], ["Vhi1u2Xip1fI"]⟩,
   ⟨["bass", "bassavah"], ["ZpY3T25"]⟩,
   ⟨["batk", "batak"], ["ah7p183"]⟩,
   ⟨["beng", "bengali"], ["jl2317212L1610332821238041142O"]⟩,
   ⟨["bhks", "bhaiksuki"], ["epi281i11DAS"]⟩,
   ⟨["bopo", "bopomofo"], ["XO1qdCg1o3V1"]⟩,
   ⟨["brah", "brahmi"], ["bjf2k24Z190"]⟩,
   ⟨["brai", "braille"], ["fpAc8"]⟩,
   ⟨["bugi", "buginese"], ["rx6R21"]⟩,
   ⟨["buhd", "buhid"], ["Vb6J"]⟩,
   ⟨["cakm", "chakma"], ["jrf2q11H"]⟩,
   ⟨["cans", "canadianaboriginal"], ["af5oKXIc2fpb2F"]⟩,
   ⟨["cari", "carian"], ["swb2m1"]⟩,
   ⟨["cham"], ["wdj1s19D2923"]⟩,
   ⟨["cher", "cherokee"], ["Xc5s225pfe1m2"]⟩,
   ⟨["chrs", "chorasmian"], ["ogf2R"]⟩,
   ⟨["copt", "coptic", "qaac"], ["XW1DztAr356"]⟩,
   ⟨["cpmn", "cyprominoan"], ["vvn2a3"]⟩,
   ⟨["cprt", "cypriot"], ["Zfd25201h1113020"]⟩,
   ⟨["cyrl", "cyrillic"], ["WX1d42i5lb6Aa50j20jg4V1WWW1X3WfN1fby1z1X10"]⟩,
   ⟨["deva", "devanagari"], ["fh2n24E2PZjg1V1igU9"]⟩,
   ⟨["diak", "divesakuru"], ["lvh262027111T112B99"]⟩,
   ⟨["dogr", "dogra"], ["dnh2x1"]⟩,
   ⟨["dsrt", "deseret"], ["Ydc2m2"]⟩,
   ⟨["dupl", "duployan"], ["ndu3i35C387923"]⟩,
   ⟨["egyp", "egyptianhieroglyphs"], ["jzn2tZ1AvZ4"]⟩,
   ⟨["elba", "elbasan"], ["glc2d1"]⟩,
   ⟨["elym", "elymaic"], ["aif2M"]⟩,
   ⟨["ethi", "ethiopic"],
    ["pt4f2132610132e1132W1132610132E1u1132Z22V13Pww6M9616161616161616gfX1525259616dgr2613111E"]⟩,
   ⟨["gara", "garay"], ["kre2b13S81"]⟩,
   ⟨["geor", "georgian"], ["ei4b110502g113kX3g122bf4b11050"]⟩,
   ⟨["glag", "glagolitic"], ["grBX3iWs361G261114"]⟩,
   ⟨["gong", "gunjalagondi"], ["pVj25111a1111579"]⟩,
   ⟨["gonm", "masaramgondi"], ["mxi26111h130111889"]⟩,
   ⟨["goth", "gothic"], ["hWc2Q"]⟩,
   ⟨["gran", "grantha"], ["zcg2317212L1611142821222060562634"]⟩,
   ⟨["grek", "greek"],
    ["hS3122310401012101J1V2EFqq64o1444r20fAL252b125271010101U2q11E1D251I2218l90oua10zvMl2H0skt",
     "1c2"]⟩,
   ⟨["gujr", "gujarati"], ["st2218121L16111429121220F32B76"]⟩,
   ⟨["gukh", "gurungkhema"], ["YWW3v1"]⟩,
   ⟨["guru", "gurmukhi"], ["op2215412L16111111201441223073107G"]⟩,
   ⟨["hang", "hangul"], ["hl4c8cW81e8V3p3UY2UrpV1SsKgoBCM4m1gmAU35252522"]⟩,
   ⟨["hani", "han"],
    ["VhCP1v2Cw6l1010P8E3YV1ov6X2ZvLzqNtB2h3jaV11C1ogc1Wji1W1ze46Z72vz5EWt7FWKmm2jHnm1eZ55bg4"]⟩,
   ⟨["hano", "hanunoo"], ["zZ6K"]⟩,
   ⟨["hatr", "hatran"], ["gmd2I1154"]⟩,
   ⟨["hebr", "hebrew"], ["zj1s18Q45leY2P1410111119"]⟩,
   ⟨["hira", "hiragana"], ["kvCs262zYe3c9I0T2YcH0"]⟩,
   ⟨["hluw", "anatolianhieroglyphs"], ["oet2tI"]⟩,
   ⟨["hmng", "pahawhhmong"], ["qqY3c2A9161K5I"]⟩,
   ⟨["hmnp", "nyiakengpuachuehmong"], ["ZZZ4i13D2941"]⟩,
   ⟨["hung", "oldhungarian"], ["ele2o1Do175"]⟩,
   ⟨["ital", "olditalic"], ["vzb2Z192"]⟩,
   ⟨["java", "javanese"], ["sZj1k22941"]⟩,
   ⟨["kali", "kayahli"], ["oVj1j110"]⟩,
   ⟨["kana", "katakana"], ["nyCw222s7Fr6k11u2Ygs191i1Xzk13161110d92o10E3"]⟩,
   ⟨["kawi"], ["Xjj2G1e13S"]⟩,
   ⟨["khar", "kharoshthi"], ["pvd231157121S224978"]⟩,
   ⟨["khmr", "khmer"], ["Xd6V32969qFV1"]⟩,
   ⟨["khoj", "khojki"], ["rzf2H1k1"]⟩,
   ⟨["kits", "khitansmallscript"], ["XVa30vb7ZFf10"]⟩,
   ⟨["knda", "kannada"], ["cf3C121M19142812137161132912"]⟩,
   ⟨["krai", "kiratrai"], ["deZ3v1"]⟩,
   ⟨["kthi", "kaithi"], ["fnf2Z2A0"]⟩,
   ⟨["lana", "taitham"], ["sy6V21S2A696D"]⟩,
   ⟨["laoo", "lao"], ["tv3110141N101M2410161923"]⟩,
   ⟨["latn", "latin"],
    ["Y2P6Pl10F05M1U1jEd14ny6b16m1535C1c2Y2c8xB0D0GCm4160R0He1lw2V1rpW1d33Z2211017LDfQg11813cbL",
     "6wX1P6Pda251f118rfv1U65"]⟩,
   ⟨["lepc", "lepcha"], ["cj7t13E32"]⟩,
   ⟨["limb", "limbu"], ["jp6U1B4B403B"]⟩,
   ⟨["lina", "lineara"], ["otc2VA9LA7"]⟩,
   ⟨["linb", "linearb"], ["Xbb2B1P1I111E2DY1y3"]⟩,
   ⟨["lisu"], ["Wxh1l1aqW10"]⟩,
   ⟨["lyci", "lycian"], ["rvb2S"]⟩,
   ⟨["lydi", "lydian"], ["iod2P50"]⟩,
   ⟨["mahj", "mahajani"], ["Wuf2c1"]⟩,
   ⟨["maka", "makasar"], ["Wij2O"]⟩,
   ⟨["mand", "mandaic"], ["Zb2R20"]⟩,
   ⟨["mani", "manichaean"], ["vWe2c14B"]⟩,
   ⟨["marc", "marchen"], ["xsi2V12L1D"]⟩,
   ⟨["medf", "medefaidrin"], ["lmZ3x2"]⟩,
   ⟨["mend", "mendekikakui"], ["yza4f62F"]⟩,
   ⟨["merc", "meroiticcursive"], ["msd2N4J2j1"]⟩,
   ⟨["mero", "meroitichieroglyphs"], ["lrd2V1"]⟩,
   ⟨["mlym", "malayalam"], ["gj3C121o112154F2P"]⟩,
   ⟨["modi"], ["sWh2b2B9"]⟩,
   ⟨["mong", "mongolian"], ["bh61201J6v27g1Zna2C"]⟩,
   ⟨["mroo", "mro"], ["kkY3U1941"]⟩,
   ⟨["mtei", "meeteimayek"], ["Ylj1Mk6j129"]⟩,
   ⟨["mult", "multani"], ["vYg2610131E1A"]⟩,
   ⟨["mymr", "myanmar"], ["Zd4Z5mue1UZ3V1jvSJ"]⟩,
   ⟨["nagm", "nagmundari"], ["oZa4f1"]⟩,
   ⟨["nand", "nandinagari"], ["qVi272j12A"]⟩,
   ⟨["narb", "oldnortharabian"], ["tzd2V1"]⟩,
   ⟨["nbat", "nabataean"], ["djd2U88"]⟩,
   ⟨["newa"], ["clg2y214"]⟩,
   ⟨["nkoo", "nko"], ["VX2w122"]⟩,
   ⟨["nshu", "nushu"], ["zzZ30gjHsC"]⟩,
   ⟨["ogam", "ogham"], ["uz5S"]⟩,
   ⟨["olck", "olchiki"], ["ul7l1"]⟩,
   ⟨["onao", "olonal"], ["wha4g140"]⟩,
   ⟨["orkh", "oldturkic"], ["ahe2f2"]⟩,
   ⟨["orya", "oriya"], ["wx2217212L1611142821227241142H"]⟩,
   ⟨["osge", "osage"], ["tic2Z14Z1"]⟩,
   ⟨["osma", "osmanya"], ["chc2T29"]⟩,
   ⟨["ougr", "olduyghur"], ["mef2P"]⟩,
   ⟨["palm", "palmyrene"], ["cid2V1"]⟩,
   ⟨["pauc", "paucinhau"], ["zei2u1"]⟩,
   ⟨["perm", "oldpermic"], ["iXc2g1"]⟩,
   ⟨["phag", "phagspa"], ["iui1t1"]⟩,
   ⟨["phli", "inscriptionalpahlavi"], ["Vce2I57"]⟩,
   ⟨["phlp", "psalterpahlavi"], ["Wde2H73C6"]⟩,
   ⟨["phnx", "phoenician"], ["hnd2R30"]⟩,
   ⟨["plrd", "miao"], ["rsZ3h24u17G"]⟩,
   ⟨["prti", "inscriptionalparthian"], ["zae2L27"]⟩,
   ⟨["rjng", "rejang"], ["aXj1Z1B0"]⟩,
   ⟨["rohg", "hanifirohingya"], ["ipe2d189"]⟩,
   ⟨["runr", "runic"], ["vV6h23A"]⟩,
   ⟨["samr", "samaritan"], ["XZ2j12E"]⟩,
   ⟨["sarb", "oldsoutharabian"], ["syd2V1"]⟩,
   ⟨["saur", "saurashtra"], ["kwi1c28B"]⟩,
   ⟨["sgnw", "signwriting"], ["urW4VLF41E"]⟩,
   ⟨["shaw", "shavian"], ["qfc2l1"]⟩,
   ⟨["shrd", "sharada"], ["nvf2X3"]⟩,
   ⟨["sidd", "siddham"], ["oxg2r12b1"]⟩,
   ⟨["sind", "khudawadi"], ["hag2w159"]⟩,
   ⟨["sinh", "sinhala"], ["ln321H3N181026304510176922jcc2J"]⟩,
   ⟨["sogd", "sogdian"], ["kcf2f1"]⟩,
   ⟨["sogo", "oldsogdian"], ["yaf2d1"]⟩,
   ⟨["sora", "sorasompeng"], ["xpf2O79"]⟩,
   ⟨["soyo", "soyombo"], ["gbi2p2"]⟩,
   ⟨["sund", "sundanese"], ["Yf7W2d87"]⟩,
   ⟨["sunu", "sunuwar"], ["cni2X1E9"]⟩,
   ⟨["sylo", "sylotinagri"], ["gsi1i1"]⟩,
   ⟨["syrc", "syriac"], ["uv1D1x122t8A"]⟩,
   ⟨["tagb", "tagbanwa"], ["Wc6C1211"]⟩,
   ⟨["takr", "takri"], ["wah2v169"]⟩,
   ⟨["tale", "taile"], ["Ws6T24"]⟩,
   ⟨["talu", "newtailue"], ["nt6h14P6A31"]⟩,
   ⟨["taml", "tamil"], ["WX3115321331101131323B4432132060EKfjg2n1D0"]⟩,
   ⟨["tang", "tangut"], ["yzZ30V1xg68sOlG8"]⟩,
   ⟨["tavt", "taiviet"], ["Vij1Z2O4"]⟩,
   ⟨["telu", "telugu"], ["Yb3C121M1F281213711220232978"]⟩,
   ⟨["tfng", "tifinagh"], ["aWCt171E0"]⟩,
   ⟨["tglg", "tagalog"], ["yY6L90"]⟩,
   ⟨["thaa", "thaana"], ["yz1n1"]⟩,
   ⟨["thai"], ["pr3v15R"]⟩,
   ⟨["tibt", "tibetan"], ["wz3e21Z14c11Z11E1641"]⟩,
   ⟨["tirh", "tirhuta"], ["gpg2e289"]⟩,
   ⟨["tnsa", "tangsa"], ["WmY3l219"]⟩,
   ⟨["todr", "todhri"], ["mrc2p1"]⟩,
   ⟨["toto"], ["WmZ4U"]⟩,
   ⟨["tutg", "tulutigalari"], ["Yhg2910201b119102013191181"]⟩,
   ⟨["ugar", "ugaritic"], ["zYc2T10"]⟩,
   ⟨["vaii", "vai"], ["nyh1p9"]⟩,
   ⟨["vith", "vithkuqi"], ["zoc2A1E16111A1E1611"]⟩,
   ⟨["wara", "warangciti"], ["ish2p2C0"]⟩,
   ⟨["wcho", "wancho"], ["nnZ4v150"]⟩,
   ⟨["xpeo", "oldpersian"], ["Vac2Z14D"]⟩,
   ⟨["xsux", "cuneiform"], ["frj2rTe3m314Be6"]⟩,
   ⟨["yezi", "yezidi"], ["uWf2f11221"]⟩,
   ⟨["yiii", "yi"], ["eog1mb13s1"]⟩,
   ⟨["zanb", "zanabazarsquare"], ["tYi2e2"]⟩,
   ⟨["zinh", "inherited", "qaai"],
    ["tOn3y81nEAQ0sN3fo4UmG21C16406031h6W2xG1d6W1rW43j31ars1FGDjV10e70Wg40nVo1j12MmH2H726U3mytQ",
     "r7"]⟩,
   ⟨["zyyy", "common"],
    ["0X2Q5Qk11E14N0V10kEc1542Js30906010mK060E030W10W50pG0a41We10XD3g90Vn12e21m6110pd10D0731512",
     "20yOB2t21A3A1EHW1W2b112251Q1Gf124jLMALxTd8cK2V11g3lGV3zCK101OF743y2130x21s4FW1b190m1W2V1n",
     "2l10v2h5pv6W2zqNX1e32f59w70a50sC0E1qtL1r69MY11I13s401V1Q5QAA0j11X2616A4f824i138n2Cp1i1g7Q",
     "Wjn13vX4W86WEW5r3y1x7Ac12z13G817T4y1w6JCJCt29Og4r21d2112021231B10161X21327161R131410361yA",
     "2h92n1ui5a2j2y1tMh14b3CE2E1E1a1An5u1P11Dh14871E5z4rV14G3C3u34W36B40FB4t1896d18T2B41V2yACD",
     "2C395t17E2A687r41d3WiiQ0UX3"]⟩]

/-- Scripts whose characters are used with other scripts too, or the other way round, with all the
characters that are used with them. -/
def scriptExtensions : List Property :=
  [⟨["adlm"], ["mo10W10ay60Zr30byt3i24941"]⟩,
   ⟨["aghb"], ["xO0i10i10Xqb2p1B0"]⟩,
   ⟨["arab"],
    ["mn141x61X1n2l1s7U115h21Skb60Zr30gos1q3GfE2r170W1Fo341f4YW1RXW3Ua22t13mhx131Q1110201913101",
     "060401010121110201010101011102316131310191G52141Gq11"]⟩,
   ⟨["armn"], ["WP0uHb12n122jhY24"]⟩,
   ⟨["avst"], ["x50kYC1iuw1r136"]⟩,
   ⟨["beng"], ["nM0fs11H1Q317212L1610332821238041142OhV501021108080204022xdb10"]⟩,
   ⟨["bopo"], ["yM012D0G1eVC2491CA32060e609g1o3V1yjs11Y94"]⟩,
   ⟨["bugi"], ["rx6R21mdc10"]⟩,
   ⟨["buhd"], ["pa619J"]⟩,
   ⟨["cakm"], ["so29Zq19ygb2q11H"]⟩,
   ⟨["cari"], ["x50ci8020aq30dnu1m1"]⟩,
   ⟨["cher"], ["tO21061M1B1qg4s225pfe1m2"]⟩,
   ⟨["copt"], ["x50vI03110k31k3DztAr356V90aqu1R"]⟩,
   ⟨["cpmn"], ["fjb21jhCa3"]⟩,
   ⟨["cprt"], ["fjb224i138st15201h1113020"]⟩,
   ⟨["cyrl"], ["nM0a221010102050q7t9lb6Aa50j20Y40fc4V1a20vyV1X3WfN1fby1z1X10"]⟩,
   ⟨["deva"], ["nM0rp1p22g1kZ5c111rW10wVa19g5V1igU9"]⟩,
   ⟨["dogr"], ["mk2Bzdg19WtTx1"]⟩,
   ⟨["dupl"], ["x50XJ110O1vjB0syh3i35C387927"]⟩,
   ⟨["elba"], ["x50VJ0hrb2d1"]⟩,
   ⟨["ethi"],
    ["cP0hz3f2132610132e1132W1132610132E1u1132Z22V13Pww6M9616161616161616gfX1525259616dgr261311",
     "1E"]⟩,
   ⟨["gara"], ["yn10E030xXd2b13S81"]⟩,
   ⟨["geor"], ["x50td10my2b110502l1kX3g122sT0ig3b11050g80"]⟩,
   ⟨["glag"], ["x50yI010fC020e80kW30xX40aY3X3nF0gVW10ilq261G261114"]⟩,
   ⟨["gong"], ["x50oe21Wlg25111a1111579"]⟩,
   ⟨["gonm"], ["mk21yhg26111h130111889"]⟩,
   ⟨["goth"], ["x50zI120e10Vbb2Q"]⟩,
   ⟨["gran"], ["yj21H1pKDck4011U231rW10yjX2317212L1611141921222060562634We3110"]⟩,
   ⟨["grek"],
    ["x50vI1201010A0k1020g172310401012101J1V2EFqq64o1444r22dAL252b125271010101U2q11E1D251I2218W",
     "30j60oua10zvMl2H0skt1c2"]⟩,
   ⟨["gujr"], ["yj21H1Z9218121L16111429121220F32B76Xwf19"]⟩,
   ⟨["gukh"], ["nk20kly2v1"]⟩,
   ⟨["guru"], ["yj21H1V5215412L16111111201441223073107GkVg19"]⟩,
   ⟨["hang"], ["hl4c8tz72491CE260e60r1V3p3UY2UrpV1SsKgoBCM4m1abA1Y94w1U35252522"]⟩,
   ⟨["hani"],
    ["x50XbCP1v2Cw6QF121C1C1C2068W60t4FW1b190m1d1u1m1FBp10v2OA4Y3U1ov6X2ZvLuv17xuLtB2h3cS1Y94xy",
     "T1C1YkQHxb81zo3Wji1W1ze46Z72vz5EWt7FWKmm2jHnm1eZ55bg4"]⟩,
   ⟨["hano"], ["zZ6M"]⟩,
   ⟨["hebr"], ["VP1xKs18Q45leY2P1410111119"]⟩,
   ⟨["hira"], ["itC2491CG510413s227x21cqs11Y94A0j11mzk1c9I0T2YcH0"]⟩,
   ⟨["hung"], ["ao8020aq30F0ebx1o1Do175"]⟩,
   ⟨["java"], ["sZj1k21A41"]⟩,
   ⟨["kali"], ["oVj1l1"]⟩,
   ⟨["kana"], ["yO0T0kyB2491CG51041y233X3s7Fr6k11u2tWs11Y9V2Vzk13161110d92o10E3"]⟩,
   ⟨["khoj"], ["Vx29nwf19kaSH1k1"]⟩,
   ⟨["knda"], ["yj21H1oPC121M19142812137161132912zb401160N010tXb15"]⟩,
   ⟨["kthi"], ["ok29lt90ikW19YtRZ2A0"]⟩,
   ⟨["latn"],
    ["Y2P6Pl10C0205M1U1jE30A01210901064RE1110F27111c10504Cy81md11cW20cb3b16m1535C1c2v107c8t90Y2",
     "0D0GCq20v1160R0He1lw2V1ZD0jbW17Qd33Z2211017LDs90mGg11813cbL6wX1P6Pda251f118rfv1U65"]⟩,
   ⟨["limb"], ["nk20vZ4U1B4B403B"]⟩,
   ⟨["lina"], ["mjb2i1od1VA9LA7"]⟩,
   ⟨["linb"], ["Xbb2B1P1I111E2DY1y3524i138"]⟩,
   ⟨["lisu"], ["nM0G0mWC1dYV1l1aqW10"]⟩,
   ⟨["lyci"], ["ao80lcy1S"]⟩,
   ⟨["lydi"], ["x50lYC0yew1P50"]⟩,
   ⟨["mahj"], ["x50oe2Bzdg19uzRc1"]⟩,
   ⟨["mand"], ["op10kGR20"]⟩,
   ⟨["mani"], ["op10bhc2c14B"]⟩,
   ⟨["mero"], ["do80cYV2V1"]⟩,
   ⟨["mlym"], ["yj21H1sTC121o112154F2PtX40N0vXb12"]⟩,
   ⟨["modi"], ["xti19lcTb2B9"]⟩,
   ⟨["mong"], ["bh6P6v27g1XV20ob4153Xgz1C"]⟩,
   ⟨["mult"], ["ws29pfd2610131E1A"]⟩,
   ⟨["mymr"], ["Zd4Z5uoe10r5UZ3V1jvSJ"]⟩,
   ⟨["nand"], ["yj20I1xS9xc408070nXb15nbU72j12A"]⟩,
   ⟨["newa"], ["yj21Yb501190601010fuY2y214"]⟩,
   ⟨["nkoo"], ["yn10E030iDw122cfY21"]⟩,
   ⟨["onao"], ["mk21dxX4g140"]⟩,
   ⟨["orkh"], ["ao80cq30rXx1f2"]⟩,
   ⟨["orya"], ["yj21H1dD217212L1611142821227241142Hmo40N0"]⟩,
   ⟨["osge"], ["uO02060j20Zmb2Z14Z1"]⟩,
   ⟨["ougr"], ["op10uic20Xb1P"]⟩,
   ⟨["perm"], ["x50vI052A0vB0Zwa2g1"]⟩,
   ⟨["phag"], ["dh6110ha20pb40yVW1t1"]⟩,
   ⟨["phlp"], ["op10hnc2H73C6"]⟩,
   ⟨["rohg"], ["yn10E030W10s40Vvc2d189"]⟩,
   ⟨["runr"], ["vV6v2"]⟩,
   ⟨["samr"], ["XZ2j12EgYA0"]⟩,
   ⟨["shaw"], ["x50sZc2l1"]⟩,
   ⟨["shrd"], ["yj20bb501021209020VYb1520hWSX3"]⟩,
   ⟨["sind"], ["mk21eeg19agSw159"]⟩,
   ⟨["sinh"], ["mk21xX121H3N181026304510176922tz30pcY2J"]⟩,
   ⟨["sogd"], ["op10vmd2f1"]⟩,
   ⟨["sunu"], ["tO1109020S030vrh2X1E9"]⟩,
   ⟨["sylo"], ["mk21Z49eYg1i1"]⟩,
   ⟨["syrc"], ["wO12110O27111mN0E120W10AAQ0o4D1x122t8Azr5010"]⟩,
   ⟨["tagb"], ["pa61f1C1211"]⟩,
   ⟨["takr"], ["mk21eeg19pgTv169"]⟩,
   ⟨["tale"], ["tO15130Vl39lh2T24"]⟩,
   ⟨["taml"], ["yj21H1iH115321331101131323B4432132060EKfk40xeb10tcS010t11ff3n1D0"]⟩,
   ⟨["tang"], ["wsCFzF0mqr20V1xg68sOlG8"]⟩,
   ⟨["telu"], ["yj21H1kLC121M1F281213711220232978wf411010N0"]⟩,
   ⟨["tfng"], ["vO01013P0cbBt171E0"]⟩,
   ⟨["tglg"], ["yY6L90L1"]⟩,
   ⟨["thaa"], ["yn10E120X29z8n1mnY20A0"]⟩,
   ⟨["thai"], ["nM0Q0h10j10dw2v15R"]⟩,
   ⟨["tibt"], ["wz3e21Z14c11Z11E1641rm83"]⟩,
   ⟨["tirh"], ["yj21H1ka50C0F0vXb19ZvSe289"]⟩,
   ⟨["todr"], ["uO020209010h20rub2p1"]⟩,
   ⟨["toto"], ["nM0iuY4U"]⟩,
   ⟨["tutg"], ["li39bd4010tXb15W60ygS910201b119102013191181"]⟩,
   ⟨["yezi"], ["yn10E030X29vfd2f11221"]⟩,
   ⟨["yiii"], ["itC15927b70tmTmb13s1bZO4"]⟩,
   ⟨["zinh"], ["dP0201E36202F111H1413Wn11fo4UgOr11014xG1d6V1mww1FGDjV10zns1j12MmH2H726U3mytQr7"]⟩,
   ⟨["zyyy"],
    ["0X2Q5Qk11B1114N0V10kE2191030181015542JX406010mK0y60pG0di10XD3he4B2W11U1911161A3A1EHW1W2b1",
     "12251Q1Gf124jLMALxTd8cK2V11g3lGM1N2913101PkD030D0D0L0XHNV10n1EC3b595X3V10pv6W2crNPe32kV10",
     "E1jVM9MK2B1I13s401V1Q5Q5Y4616A4zCCp1i1cur1W86WEW5r3y1x7Ac12z13G817T4y1w6JCJCt2R6g4r21d211",
     "2021231B10161X21327161R131410361yA2h92n1ui5a2j2y1tMh14b3CE2E1E1a1An5u1P11Dh148N5z4rV14G3C",
     "3u34W36B40FB4t1896d18T2B41V2yACD2C395t17E2A687r41d3WiiQ0UX3"]⟩]

end NamePattern.CharRegex.Property

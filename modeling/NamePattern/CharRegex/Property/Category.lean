import NamePattern.CharRegex.Packed

/-! General categories of characters. -/
namespace NamePattern.CharRegex.Property

/-- The general categories that are not made of others. -/
def categories : List Property :=
  [⟨["cc", "control", "cntrl"], ["0V1X3W1"]⟩,
   ⟨["cf", "format"], ["n50yh15M0b60n10hC1n20dW40yY24Q4n1419xdx10W82gj40F0bi9Fbfa13vl57zrtQ0UX3"]⟩,
   ⟨["co", "privateuse"], ["upx1ip6rnvUzab22zab2"]⟩,
   ⟨["ll", "lowercaseletter"],
    ["Z3Pw10f1N17101010101010101010101010101010101010101010101010101010111010101010101011101010",
     "10101010101010101010101010101010101010102010122010203140203220201010201110203010212260202",
     "01010101010101011101010101010101011201030101010101010101010101010101010101010101010101010",
     "1010101016202110401010101b21Qc60103032I0RY11132101010101010101010101014102021p1l110101010",
     "10101010101010101010101010901010101010101010101010101010101010101010101010101010201010101",
     "01011101010101010101010101010101010101010101010101010101010101010101010101010101010101010",
     "101010101010m1e1ZV3g122lO5dd2810t3h1W2C1X1e3010101010101010101010101010101010101010101010",
     "10101010101010101010101010101010101010101010101010101010101010101010101010101010101010101",
     "01010101010101810101010101010101010101010101010101010101010101010101010101010101010101010",
     "10101010101010101010101885A78785A7878D2787878411603211832187A211v803130R04040218340r10Yv2",
     "l1103110101040111550101010101010101010101010101010101010101010101010101010101010101010101",
     "01010101010101010101010101011701040Cb11050vcW10101010101010101010101010101010101010101010",
     "10J010101010101010101010101010g4010101010101210101010101010101010101010101010101010101010",
     "10101010101010101017101020101010104010201210101010101010101010505010101010101010401020301",
     "010101010Q030kQg1587m2jYL6C4gY1Ppd1d1h4Z1V5A1E1611xv1o1W4Lrz2V1XtMV1WXRPQ61HQPQ310161AQPQ",
     "PQPQPQPQPQPQPQRSO15QO15QO15QO15QO1510kx191J65ep2X1"]⟩,
   ⟨["lm", "modifierletter"],
    ["bMH4BE47010e4050iF0i70e51q8140V109030a50h50wd10Y40cI0nu10j30rJ0zE5o5V2D0Y1a1cM0D0GCWa31t7",
     "0a60ZF0h1450Z31V32gnT0fe15r80q30S1x38n20N0h3231ZF0M0i40k30L1f3390wgM0j11WY251f118Wk10W10r",
     "zO3hG2e11sHCX2110xWH31611zuCz1k66gU0Ya10"]⟩,
   ⟨["lo", "otherletter"],
    ["k50F0d8043r60qQQ43j1V119Z111a310O1A220G01TTv2B0OW1LLg1O7A5N15He1x1r130I079GE47212L1610333",
     "0G0D112E1A085412L16111111V1310J2G8121L16111430I0F1N0B7212L16111430U112F0H0153213311011313",
     "23BM0q17121M1F30Q22021U047121M191430V1111F1H8121e120G05282O55H3N181026w1l111C5x1110141N10",
     "19119024N3W10W271Z1R4r3g1K0G5433031724CC0p3nA132610132e1132W1132610132E1u1132Z2b1Fp3zJ2G1",
     "P5h2677HDIEHEC12Fp1e10a2Y11q1742X1105c2AUn1T24Bh14Ps1M9q1q5k1H7s1TD1Ah1QZ1f12ATp33151130x",
     "Y13ua3t1OM9616161616161616tH0r104s2801w2405g11V3HV1m1FlGov6X2uvL1va1a2d18o84FA1Z20n1c2j50",
     "f303612131MTp1En1V253011BRAMPS7k1j1428A41e1N217KF15303n11031242010O13A70E525259616q4Y1Tgo",
     "BCM4m1pt8tB2h3a20191C141011111j3X1qBIW22r1e1Bs341f4h391i12U35252522Z1B1P1I111E2DY1y3mCS3m",
     "1l1V1DJ176b1AT2Z147Z4k2a3d18p1z2p1CVA9LA7x45201h111302MAM9UY2I11ALAPd2t161X20F3121Sg1S3SZ",
     "171RRr1ALAIDHm3f2x5Z1c1310u9f161G2x1SA08Lg1Hk1KRMCq1v1120Di1W1OQZ1T0208Y130Cl1E3L010Z1H1O",
     "J1W2610131E197k1c17212L16111430I0C4U910201b110P010i1q1I3K2Ul1K110y5k1f13a1l1K0x1g1D0e2Qb1",
     "6z5h1u672027111NF010W372c1G010S0Ad170L0Bj1J0If2i6W1V181a1H0n1To36111b1L0P5111V1E0mAIF01C1",
     "X1V40m2rTi7e6Ws2Y3FmY1H5PvZ45tIqY7Tvu1fI7UHl2HTIl1p1K5IWEd1XDh250p5xg68xd1f19se9g9F0T220E",
     "38sCjh2i35C3879ha90aGi1X10gATIh1oFQh7T20zF613111E1f6bh131Q1110201913101060401010121110201",
     "010101011102316131310191G52141Gnn4Wji1W1ze46Z72vz5EWt7FWKmm2jHnm1eZ55bg4"]⟩,
   ⟨["lt", "titlecaseletter"], ["oE02020c10ew778787C0F0l10"]⟩,
   ⟨["lu", "uppercaseletter"],
    ["Y2Pd3M16X10101010101010101010101010101010101010101010101010101010201010101010101020101010",
     "10101010101010101010101010101010101010111010311011122311123111101011102011121011307020202",
     "01010101010101020101010101010101020201210101010101010101010101010101010101010101010101010",
     "101010107111201310101010f90103080601210111G18Z10223010101010101010101010105020112o1m10101",
     "01010101010101010101010101010901010101010101010101010101010101010101010101010101010111010",
     "10101010201010101010101010101010101010101010101010101010101010101010101010101010101010101",
     "0101010101010102b1bV3b11050eNs2ud206g122fA01010101010101010101010101010101010101010101010",
     "10101010101010101010101010101010101010101010101010101010101010101010101010101010101010101",
     "01010101010109010101010101010101010101010101010101010101010101010101010101010101010101010",
     "10101010101010101010109785A78785B010101087f23C3C3C4B3j8040322220346010101323A150z10nt2l1m",
     "10122010101310208210101010101010101010101010101010101010101010101010101010101010101010101",
     "010101010101010101010101010801040reW1010101010101010101010101010101010101010101010J010101",
     "010101010101010101010g4010101010101030101010101010101010101010101010101010101010101010101",
     "010101010A010111010101040102010301010101010101010101414101010101010101310113050101010O0vb",
     "NPhd1d1h4Z1W5A1E1611Yv1o1X5Lrz2V1XtMV1cXRPQPQPQ01120212317QPQ1132716R113141036RPQPQPQPQPQ",
     "PUOX1OX1OX1OX1OX10Yn4X1"]⟩,
   ⟨["mc", "spacingmark"],
    ["ih20t10228311o11w126121A0h10w12Z20w128011r11w10106121A0e31113212A0f12z13z11w1014211191S0E",
     "1w125212A0g11i2267I1pA1W20l51406021P1A226L12520A2ir10U0a407711aB3224115c71w1010901185q40m",
     "10501411z10U04120y10221031m1781l50L0pY51myV1120v21o1Fn41l10m114122m3121O0j1010l302150p711",
     "11110ipQ010Y40j1241r30O1x10m1291D0V323110k52V11w1113212290A1r227020131110d328130i32601320",
     "p726320p328110l301160f301140i8290z7511402010n428340r20T1V20ZD0E0i307020w644110eB1C0m11811",
     "0dmH2ts3s1g31syP165"]⟩,
   ⟨["me", "enclosingmark"], ["ib11gx50lo1312umZ12"]⟩,
   ⟨["mn", "nonspacingmark"],
    ["tOn3w84m8i110111110f2Am1KG0d36252113Z10UQy2Aw1890O3181214h12x18g1N1V1t1010474036A1T0w1043",
     "80K1Q021v1041412230U130B1v10441140K1M510w1020138071B1U0z10C0o1030t1012521371B1T0w10206051",
     "K1S1v114380K1T0f207210x2026C7a3028B6g21R01010t1D14115A1Z190e33151121P142G3D02160F0qM2lU2T",
     "1U1U1X2116802A90j1210t31Y10u32419062X7120w10161010276920m1D1Fn13m10141050e18C1W132112u101",
     "13012w1721x421C16406031h6W2cNC403BWb32m40Y3V1wH3j31WhV1049W11n21t803040P150w41QHD0c17PAk1",
     "2m102321d10a252121C080l10p1012215110g1180q702040yXL0tNFGFhV10e70u44wr121153e1240f51kI3Y24",
     "cA1m23d2An13z30s1Ef1021A2n132170z12a1417V20C1q18A320X3220116020X5037L1v1130b1634d25D01010",
     "E1s272210N0r25104111q736111R1s272011i30102510d30102314g8811d811040p432140W19e1523809522k1",
     "C11YD61510p2L261111y3530111610f213010bB1B1q145010N0mm506EuxBB32ln24x16uX10W23o20miK1tw4j1",
     "2MmH2H726U3t42vW2s14n180E0M41Ewh161G261114c30a56YC0z13hG3b81sN6l36mpnQr7"]⟩,
   ⟨["nd", "decimalnumber", "digit"],
    ["m19to19f49h69eD9u39u39u39u39u39u39u39u39u39Y39u39d29z89d29Xy19c19q99Z49g5969w59t29f4969sq",
     "a19wL9c19h69M9t29YD9ZZM9oj19hd2969qP9Z49y19p49z89WB9u39XC9e396Jj29oD9e39gL9t29y79d29oD9ql",
     "H9mi29t29f49cH9fiP9iw2n1hj29oD9bG9z79lR9ky49"]⟩,
   ⟨["nl", "letternumber"], ["gY62at2Y123qv30P8E2znV19uWOq1vE080f44om8m3"]⟩,
   ⟨["no", "othernumber"],
    ["s515022Wj25ZC5w32e46V76H8zD9sY1Jsa19kF0gs103569h6Ff10iNx1l2LfKTqi10ub13j49U71EW19d1EudV15",
     "jpNi1Y23H1VBQa13zg17P6d18i24M5a512F2j1X28q11U2i24g37O7f16pA5gBUY59g13o36f4JcCJlh11wD8YSIj",
     "RKqYK6sPMZqQJCJk3Oyp58zTw11213j2i11EWV1C"]⟩,
   ⟨["pc", "connectorpunctuation"], ["X30bk81J0bYx11O2r70"]⟩,
   ⟨["pd", "dashpunctuation"],
    ["j10di10p10rt30bX10gZ25pr3020V1140S0hE0J0n30mss11b10A0j50ru30dA0"]⟩,
   ⟨["pe", "closepunctuation"],
    ["f10p10V10rx3010vy10tm20t10F0jK010U0WZ10101010101010n20W1010101010WD010101010101010101010X",
     "2010X10cY10101010i10101010uD0101010103010101021wos10V70T01010101010101030H01010k50p10V102",
     "020"]⟩,
   ⟨["pf", "finalpunctuation"], ["W60Vg8030S0up30104020F030"]⟩,
   ⟨["pi", "initialpunctuation"], ["l50kg802120P0up30104020F030"]⟩,
   ⟨["po", "otherpunctuation"],
    ["X1212201011A131R0b2050E170pM080WF5f10s102020i11K111D012h23e30h1Dl72s1EV10i81A0l40w30x30nC",
     "0C0vB0x20A1i5E10o30h2441n35l50sJ8yO0V42e21X5212b1513YA1z61Z4615a51A6S2V43x14V21X27B0xQ187",
     "8823223A1019Xg3311o30o41422028111021A41923101C22uD2v10Y60VxU1q82b30A0r35dC3t21e1210n11l10",
     "Z3CG1V43X41G1W80fwL620M0K1233213726011u4212201011A131R0a1021cD2mL0m10gD0zN0i60V10t88c10o3",
     "6Z26w23rU4i13Y66l3113X43m11m2340D012v25j30o9111q34A110g30X8Mh32SCj20b42Z80l82V50z27q2214V",
     "39y60X34g11uK1h2Cp50pa14vW31ymF1e40Y2480uH2l93mA0qiK0yy74mW30uR1"]⟩,
   ⟨["ps", "openpunctuation"],
    ["e10o10V10sx3010vy10hl2030c10t10F0jK010U0WZ10101010101010n20W1010101010WD01010101010101010",
     "1010X2010X10cY10101010P0I0101010uD0101010103010101020zos10y60T01010101010101030H01010k50o",
     "10V103020"]⟩,
   ⟨["sc", "currencysymbol"],
    ["a10W43me10z30XG1XG170x70k80sI0fm20hf2W1qXa10cvM0k30z40X7131yk83ezp10Vn20"]⟩,
   ⟨["sk", "modifiersymbol"],
    ["W3010e20604030uG3CD56101Gt30E1gf10oa6012B2D2D2D1ai41plV1M91f31kV10E1xgLGsS010c50rVY24"]⟩,
   ⟨["sm", "mathsymbol"],
    ["h10G2z1010j1040b10V10rO0VH2oz60D0d12D2k40d1460b245140202070V112010V1o8W11x20UOe15ZF090s17",
     "n30vA42UAFd8b4MV24V12e8m1K25lgt10nQ012e50G2z1010c4063mo31jnr10P0V10P0V10P0V10P0V10P0ga61"]⟩,
   ⟨["so", "othersymbol"],
    ["g50204010lV10n81Y41p60A0J1z70oG0WC0b4510d40q60f10oC2F01225K01010e47151153g61dO9fN0eN0X5X1",
     "hB998lj111311A0116510101040B1E01110w1194231111161U21101Up874J262n21TPd16e2MAo2k2Mw5181r18",
     "m31z7i1h1X2c8lGl1L16c12V11g3h75lB1k1P1v2Cw6QF40D1C0L161vA149W1b190GUBT80FV1Ac1FeApv6W2vWN",
     "s1xR3A110kI2mWMFY40j12oF03041D1YA8v1G221C30l1i1kr11XJ0xe30wd274GsWK350qpL0XY4r7GWEW5r3y1x",
     "7Ac12x152M17T4y1LY230V6t2kc1kGt13o171D11Vu10uV30a40dNh14b3CE2E1E1a1Na5u1SDh14871E5z4X85jN",
     "4G3C3u34W36B40FB4t1896d18T2B41V2yACD2C395t17E2A687r41y2"]⟩,
   ⟨["zl", "lineseparator"], ["mm80"]⟩,
   ⟨["zp", "paragraphseparator"], ["nm80"]⟩,
   ⟨["zs", "spaceseparator"], ["W10Y40ou50il2Aa10l10Wa40"]⟩]

/-- General categories that are made of others, with a name of each of these. Unassigned code points
count as a category `cn`. -/
def categoryGroups : List (List String × List String) :=
  [(["c", "other"], ["cc", "cf", "cn", "co"]),
   (["l", "letter"], ["ll", "lm", "lo", "lt", "lu"]),
   (["lc", "casedletter"], ["ll", "lt", "lu"]),
   (["m", "mark", "combiningmark"], ["mc", "me", "mn"]),
   (["n", "number"], ["nd", "nl", "no"]),
   (["p", "punctuation", "punct"], ["pc", "pd", "pe", "pf", "pi", "po", "ps"]),
   (["s", "symbol"], ["sc", "sk", "sm", "so"]),
   (["z", "separator"], ["zl", "zp", "zs"])]

end NamePattern.CharRegex.Property

import NamePattern.CharRegex.Packed

/-! Yes-or-no properties of characters. -/
namespace NamePattern.CharRegex.Property

/-- Yes-or-no properties. -/
def binary : List Property :=
  [⟨["alphabetic", "alpha"],
    ["Y2P6Pl10A0405M1U1sE4BE47010t20TH1123106012101J1p21j48f51b1206e1d1D101111108Q43TA5t116Ed31",
     "74742A220Gl1Dc3OW191405N2IJO7A5N15808f1AB366i21F124EDI17212L16103337212110804114C1A042154",
     "12L16111111444121407310H5B218121L16111438121130F3L34217212L161114372121914114D0G115321331",
     "101131323B4432123060e1C121M1F37121281122023S317121M1914371212816113D2CC121e1271212105374M",
     "5121H3N181026851017I1Dv15660p1110141N101I12241060E3W10W271Z14I4F1Z1a2s11024GW2A32b110502g",
     "11rA132610132e1132W1132610132E1u1132Z2b1FGs2253zJ2G1P5h23A7JBKCJCC1211Cp12IE040a2v27g15c2",
     "AU1B48NT24Bh14Ps1R4V22Jo10N1B2n1p11E17p1f123Ah11AEs1M2AZ12A5g122f131511305a6JX1By8252b125",
     "271010101U2q11610321633254C5216s30D0GCd3040291034601010131A235440He1cQp1lw1g76331Cb110502",
     "t170GM96161616161616161V1l10ZF2P874244s2621w2135g11V3HV1m1FlGov6X2rWNa2j12p83FA1Kk1573o3d",
     "182e32Z2211017LJ1W1Op1Ca210i153012AW15Y1DS3o11BF0GFA41s19DIM3b21010O22F23B5252596161g11D6",
     "y3LgoBCM4m1pt8tB2h3c16C45B1C141011111j3X1qBIW22r1e1Bs341f4a1P6PBv235252522Z1B1P1I111E2DY1",
     "y3c2q1o8S3m1l1V1DT5g15T2Z14714g1X5IZ14Z14d18p1CA1E16111A1E16113p1CVA9LA7O51f118c25201h111",
     "302MAM9UY2I11ALAPd2t161X231157121Sg1S3SZ171RRr1ALAIDHm3f2t1o1Do1Dd1Y1R305MX8f11131G2t103S",
     "A08Lg1Hk1KRM9c2h14Au190DONo1H38Y1309W21391A010Z1H1X12063V2610131E197u1N317212L16111437212",
     "1306056S910201b119102013113010i1Y21213K2UY22110y5r126P5Y1V21030x1r120e2Q2DL6z5u1f3W2V1720",
     "27111T112123V372j1251011Ro129He250If2i6W1V181i11610n1T2L1Dg26111h13011121021O5111a1111310",
     "mAM9G1e132n30m2rTe3m3He6Ws2Y3FmY1H5PvZ45tIqY7k1eu1fI7UHl2HTIl1G3V1K5IyDi1u6W2Z4h24u17GX21",
     "10C1Exg68xd1f19ce9316111g9F0T220E38sCjh2i35C387940Xc6r21d2112021231B10161X21327161R131410",
     "361yA2O1O1U1O1U1O1U1O1U1O17kx1U65w661G2611145z1X10o3i1A6G0gATIh1oFRg7T20zF613111E1f6x1a23",
     "030vc131Q1110201913101060401010121110201010101011102316131310191G52141GdKP6P6Piv3Wji1W1ze",
     "46Z72vz5EWt7FWKmm2jHnm1eZ55bg4"]⟩,
   ⟨["asciihexdigit", "ahex"], ["m1975Q5"]⟩,
   ⟨["bidicontrol", "bidic"], ["jo10cx61Q4t13"]⟩,
   ⟨["bidimirrored", "bidim"],
    ["e11I010S010T010j10F0qv33uy11gm21A1s11E1r50b633530313313101048501H539110171V12350912I51942",
     "14N2F83K171VZ1Dh2023111253523DVDL251D807530441124401221A521CI13201020135162O1B14311214g12",
     "71d150103452403410d80oG33111E129h17tD927Zys1551c51I010S010T0101111fhv10v10v10v10v10"]⟩,
   ⟨["cased"],
    ["Y2P6Pl10A0405M1U1d6134q61Z171U4Y30g132123106012101J1p21j48f51b19e1ny2b110502g113qLs225dd2",
     "A5g122X2a6X2y8252b125271010101U2q11610321633254C5216s30D0GCd3040291034601010131540235440H",
     "V131gQp1lw1g76331Cb11050ucW1j1ITd4d3331z1211017L412kQg11D6m2jYL6C4fX1P6Pgc1m2Y3Z14Z1s3A1E",
     "16111A1E1611mE0221f118hd1o1Do1V3LALqy2W2WsMW2bWRr21d2112021231B10161X21327161R131410361yA",
     "2O1O1U1O1U1O1U1O1U1O17kx191J65i8z1td2a2iY2P6P6P"]⟩,
   ⟨["caseignorable", "ci"],
    ["d1060B0Z1010e2040104021cGa641409110Y86q6050n1i110111110i10B5AA10Z10AKG0d371913X1010UQy2Aw",
     "1A4020ONh12i107158f1v1t1010474036A1D0F0w104380K1Q021v1041412230U130B1v10441140K1M510w1020",
     "138071B1U0z10C0o1030t1012521371B1T0w10206051K1S1v114380K1T0f207210x2026B8a30289016g21R010",
     "10t1D14115A1Z190e33151121P142G3D02160F0W30oJ2lU2T1U1U1X2116802A3050j14p10Y21Y10u32419062X",
     "7120w10161010276920d108Un13m10141050e18C1W132112u10113012w1721X25p221C16406031o1V2D0Y1c3g",
     "E012B2D2D2D1C481A02024n141910D0GCp1W1fX31p32W40F0Y3V1l10ZF0a133450V35V32gnT0fe15r80a33191",
     "0S3n21EX1l20N2f3231803040P150w41QHD0c17PAk12m102321H0L1Z252121C080Z10B0p1012215110R0E1511",
     "0c3492x302040yXL0s4GkIF30CFY1020j507060B0Z1010l10j11a20L2mG0e70u44bX151f118tI21153e1240f5",
     "1kI3c10Q410aA1m23d2An13z30s1Ef1021A2n13212040A0o12a1417V20C1q18A320X3220116020X5037L1v113",
     "0b1634d25D01010E1s272210N0r25104111q736111R1s272011i30102510d30102314g8811d811040p432140W",
     "19e1523809522k1C11YD61510p2L261111y3530111610f213010bB1B1q145010N0Wm5G6EuxBB32ln24x1693hG",
     "2e11mF0W2GX2111wWH31611bg3113ow4j12MmH29F26U3t42vW2s14n180E0M41Ewh161G2611145z1X10a5DwB0z",
     "13gG4b81sN6l37cv24xlkQ0UX3Z4r7"]⟩,
   ⟨["changeswhencasefolded", "cwcf"],
    ["Y2Px20AM17W101010101010101010101010101010101010101010101010101010102010101010101010111010",
     "10101010101010101010101010101010101010101110101011101112231112311110101110201112101130711",
     "11110101010101010102010101010101010102110121010101010101010101010101010101010101010101010",
     "1010101010107111201310101010y70g10103080601210111G18M0C2311010101010101010101010101121101",
     "12o1m101010101010101010101010101010101090101010101010101010101010101010101010101010101010",
     "10101110101010101020101010101010101010101010101010101010101010101010101010101010101010101",
     "01010101010101010101010102b1m10oy2b11050ZQ5dd296g122fA01010101010101010101010101010101010",
     "10101010101010101010101010101010101010101010101010101010101010101010101010101010101010101",
     "01010101010101010101010105120101010101010101010101010101010101010101010101010101010101010",
     "1010101010101010101010101010101010109785A78785B010101087Gl122255225B3C45225n903160j1FJ0hQ",
     "Pgx1l1m1012201010131020821010101010101010101010101010101010101010101010101010101010101010",
     "1010101010101010101010101010101010801040reW1010101010101010101010101010101010101010101010",
     "J010101010101010101010101010g401010101010103010101010101010101010101010101010101010101010",
     "1010101010101010A010111010101040102010301010101010101010101414101010101010101310113050101",
     "010O0rSm2jYL6C4fX1Phd1d1h4Z1W5A1E1611Yv1o1X5Lrz2V1XtMV1ppW1X1"]⟩,
   ⟨["changeswhencasemapped", "cwcm"],
    ["Y2P6Pw10AM1U1W21q21R2D21104z21H6Q1110113113142011207020113550A1g50g132132106012101J1k13W1",
     "141d48f51b1Ac1oy2b110502g122qLs225dd2A5g122z5030G0p3V5201t3252b125271010101U2q11610321633",
     "254C5216n903160R0HV131gQp1lw1o311117d37331Cb11050ucW1j1IRf4D2z19E32241O1T2146O1sR0Sm2jYL6",
     "C4fX1P6Pgc1m2Y3Z14Z1s3A1E16111A1E1611vt1o1Do1V3LALqy2W2WsMW2ooW1a2"]⟩,
   ⟨["changeswhenlowercased", "cwl"],
    ["Y2Pd3M16X10101010101010101010101010101010101010101010101010101010201010101010101020101010",
     "10101010101010101010101010101010101010111010311011122311123111101011102011121011307111111",
     "01010101010101020101010101010101021101210101010101010101010101010101010101010101010101010",
     "101010107111201310101010f90103080601210111G18Z108010101010101010101010105020112o1m1010101",
     "01010101010101010101010101090101010101010101010101010101010101010101010101010101011101010",
     "10101020101010101010101010101010101010101010101010101010101010101010101010101010101010101",
     "01010101010102b1bV3b11050eNs2ud206g122fA0101010101010101010101010101010101010101010101010",
     "10101010101010101010101010101010101010101010101010101010101010101010101010101010101010101",
     "01010101010901010101010101010101010101010101010101010101010101010101010101010101010101010",
     "101010101010101010109785A78785B010101087O7878784B4B3C4B4n903160j1FJ0hQPgx1l1m101220101013",
     "10208210101010101010101010101010101010101010101010101010101010101010101010101010101010101",
     "010101010101010801040reW1010101010101010101010101010101010101010101010J010101010101010101",
     "010101010g4010101010101030101010101010101010101010101010101010101010101010101010101010A01",
     "0111010101040102010301010101010101010101414101010101010101310113050101010O0vbNPhd1d1h4Z1W",
     "5A1E1611Yv1o1X5Lrz2V1XtMV1ppW1X1"]⟩,
   ⟨["changeswhentitlecased", "cwt"],
    ["Z3Pw10f1N17101010101010101010101010101010101010101010101010101010102010101010101011101010",
     "10101010101010101010101010101010101010102010122010203050203220201010204020301020301040111",
     "11010101010101010111010101010101010121010301010101010101010101010101010101010101030101010",
     "101010101080211040101010151110113113142011207020113550A1g50h10103032I0RY11132101010101010",
     "101010101014102020q1l11010101010101010101010101010101010901010101010101010101010101010101",
     "01010101010101010101020101010101011101010101010101010101010101010101010101010101010101010",
     "101010101010101010101010101010101010101010n1c1cv35dd2810q7030G0q3010101010101010101010101",
     "01010101010101010101010101010101010101010101010101010101010101010101010101010101010101010",
     "10101010101010101010101010101010101650101010101010101010101010101010101010101010101010101",
     "010101010101010101010101010101010101010101885A78785A7878D2787878411603211832187A211WB0X1F",
     "40bRPXy1l110311010106020A0101010101010101010101010101010101010101010101010101010101010101",
     "01010101010101010101010101010101010801040Cb11050vcW10101010101010101010101010101010101010",
     "10101010J010101010101010101010101010g4010101010101030101010101010101010101010101010101010",
     "101010101010101010101010A010201010101040401120101010101010101010B010101010101010401020305",
     "01010Q0sR0Sm2jYL6C4gY1Ppd1d1h4Z1V5A1E1611xv1o1W4Lrz2V1XtMV1rpW1X1"]⟩,
   ⟨["changeswhenuppercased", "cwu"],
    ["Z3Pw10f1N17101010101010101010101010101010101010101010101010101010102010101010101011101010",
     "10101010101010101010101010101010101010102010122010203050203220201010204020301020301051111",
     "11010101010101011101010101010101011111030101010101010101010101010101010101010103010101010",
     "1010101080211040101010151110113113142011207020113550A1g50h10103032I0RY1113210101010101010",
     "1010101014102020q1l1101010101010101010101010101010101090101010101010101010101010101010101",
     "01010101010101010102010101010101110101010101010101010101010101010101010101010101010101010",
     "1010101010101010101010101010101010101010n1c1aV3g122lO5dd2810q7030G0q301010101010101010101",
     "01010101010101010101010101010101010101010101010101010101010101010101010101010101010101010",
     "10101010101010101010101010101010101010165010101010101010101010101010101010101010101010101",
     "0101010101010101010101010101010101010101010101885A78785A7878D2q1114010321140332187A21140w",
     "A0X1F40bRPXy1l110311010106020A01010101010101010101010101010101010101010101010101010101010",
     "1010101010101010101010101010101010101010801040Cb11050vcW101010101010101010101010101010101",
     "0101010101010J010101010101010101010101010g40101010101010301010101010101010101010101010101",
     "01010101010101010101010101010A010201010101040401120101010101010101010B0101010101010104010",
     "2030501010Q0sR0Sm2jYL6C4gY1Ppd1d1h4Z1V5A1E1611xv1o1W4Lrz2V1XtMV1rpW1X1"]⟩,
   ⟨["dash"], ["j10di10p10rt30bX10gZ25z10d10F0nC0cb3020V1140S0hE0J0n30mss11b10A0j50ru30dA0"]⟩,
   ⟨["defaultignorablecodepoint", "di"],
    ["n50rL0YN0zz21cq11s24xY24Q4n1FVl40pks1Fr70a50m28xco13vl57yrtQYd4"]⟩,
   ⟨["deprecated", "dep"], ["oA0og10ih2010ha21if25kM1lgkU0"]⟩,
   ⟨["diacritic", "dia"],
    ["W3010e20604021cGY51755H14091a84s60t1i110111110c4741f414132a2Qy2Aw1AY11X47f19GRz10G033S0h2",
     "0G0m30G0m30G0l12y10G070v30m30G0m30G0l31G0V40n30C510j30D4i21R0101041Z2211V20o3011e1144P610",
     "A1sM2nU1U0t4A90bB2i90K720m1E2Ag30F0c18s11w10B1Z21X25p2O406022o1V2m1Z15Bb1AgE012B2D2D2D1vi",
     "32cA0fG5h33X30wdV10C110S1p21EX1e32l31C0b10w40RHv13a10X30C0a10u42Y23p10c3492Z41yXL0uOFr801",
     "0l10j11a20pO0ac151f118mK240f51iI5c10Q4wC2d2An13b60f10f21w31V20j2092g31s51n21G0O634w2211D1",
     "X3030z31Y81X40u31r30q81f8140W50q20I0o20nD0f8011o20rD1N0tm5EgyB0ln24x16bI1oHGn21jWH31611Wd",
     "8j12MmH2358726U3uv3z1d66YC0z13rO1sN6l3212"]⟩,
   ⟨["emoji"],
    ["Z106059n3040mh80C0z60M0x25F1vB1C0g50PA42i60j71A090w1314902021204020112030318250105BB12011",
     "10I021I5101131502141B15120511011K155132040202510201010603060A1F02040104210B1m1290E0E0VC1y",
     "E2J1p1040Xe10C0hJ010dpu30l60a51C1E029i2P11N0K028L1o5X12n321122p2221j81V2B51N7127C0232041D",
     "120819052C28220104060306s2m1c257224930113029f7B40Z9k1191y5o3C395t17E2A68"]⟩,
   ⟨["emojicomponent", "ecomp"], ["Z106059uj80w60ixw10oyX2PgG4zk13uWjQX3"]⟩,
   ⟨["emojimodifier", "emod"], ["wae44"]⟩,
   ⟨["emojimodifierbase", "ebase"],
    ["sZA0X70G3mpy30y122022t312ALI3042127010O0k6140L041o5234q20G290B0mI02087609922u10z111110H21",
     "Ch72g18"]⟩,
   ⟨["emojipresentation", "epres"],
    ["wf91o633020uG1L1o1Bh10J0D081H1518050L0711040207041S0Z10104210z12O0E0rR1p1040dnw30l60Z6029",
     "i2P10O0K02412L1o5W1C81c21LCg144CG303d2101V62V2D31NI0Q1D0t2r2m1c260322243B178f7B40Z9k1191y",
     "5o3C395t17E2A68"]⟩,
   ⟨["extendedpictographic", "extpict"],
    ["j5040mh80C0z60M0x25F1vB1C0X30d20PA42i60j71A090w13151B1p3At32A1010603060A1F02040104210B4j1",
     "290E0E0VC1yE2J1p1040Xe10C0hJ010Zpu3c8D2V10y15C1E029Iu1REA0K028139zD5cA8m8m1Y4s3Bs2g1C3u17",
     "A5e17Uo2Ck1191bEd8yW1"]⟩,
   ⟨["extender", "ext"],
    ["x50eH1fS0cE0fK0i40w20dO0Y40kj20u10rJ0vC0b20fb50h14f31V32gnT0cn10WV10M0i40k30L1pkM0nZ21vl1",
     "0R040jd10j90s31XG2rd10YkL1Xc1110VbU1sc10kR2"]⟩,
   ⟨["graphemebase", "grbase"],
    ["W1W3X1C1ZJo372546101J1b77f51b12n122k101020209Q45H9B01j1LF1c38061204V1201TTv2B0Eg1963N4090",
     "307E1O501A5UHf1v1s110138312792S1117212L1610333011612110D1124N5015412L1611111142O310792210",
     "C018121L16111433801130F14B708117212L16111430206121F1124HB015321331101131323B5011321230LK6",
     "217121M1F3033J2202149791A121M1914312011O1114912EA121e1201152121142194P211H3N1810269166792",
     "2Cl111B78Cb1110141N1019119024109923W1N2Q10101D1Z1I05024n17151Cb1i14060212O233F4C11251E1d1",
     "10502ZC132610132e1132W1132610132E1u1132Z25S3P6s2252mL3v27HDI319HEC12Fp1207711B839696A596v",
     "2742X1105c2AU43224115703f124Bh14P6A3u1213t110901185D9696Dt2l1A3371S9B2V1416t1102210Dl1815",
     "E3z15g12AB0D0731512205a6X2y8252b125271010101U2q11E1D251I22181A5N7m1G12Q1C3W1W2k44jLMALiw1",
     "2V11XB315i110502t171FM9616161616161616X1V3Y1P1v2Cw6Qv16F1s24c35g11V31s29l11xjU3s19bBKk140",
     "AV12m2258o6211017LF12131O24496t18a2ABOC1b18OB0CT6l11141211C1A461O1e16121B21710292V11o1103",
     "1242010OG27B5252596161x14s31113396goBCM4m1pt8tB2h3c16C4501N141011111V4GfE2r170W1FG9MY11I1",
     "3441f44W52U352525223616D12B1P1I111E2DY1y3524i13u21C30l1i1c4S3m1GQ4Z19T5b1AT1a14Dg1X5296Z1",
     "4Z14d18p1BB1E16111A1E16113p1CVA9LA7O51f118c25201h111302M1e288m1I115W13Q50X2t14J2k1F3121SA",
     "8787W2W1a16B9r13S2Q5P73C6n2f2t1o1Do17f1C96b18N81r6U1f13021G2x1d18LB8MH43c1RKM901r1F64T112",
     "0Cm1412113EO799Z1509H8Y112Bp19017411F1JBH1R314511W2610131E1A6k112D98117212L16111430101321",
     "2130C6S910201b11011F011301211d1t181301K1012Ul111601110202389g5k11163202Qa1o1811023B96CJg1",
     "101181696JSQ3011409Mz5k19020c3p2C72027111N1411631299d272f18313R0Ad1614790613j1D028Df279w5",
     "X1E9681b1E015AS3V1P07020i26111b1L09965111a141101079VAI239E1Z1813Mt20Fn1DsTe3m314Be6Ws2a3D",
     "mY1H5PvZ45tIqY7TC239yt1fI7U194n2196T70Al17EA9161K5IyDv1h6x2d3h25t1BCX23Sxg68xd1f19ce93161",
     "11g9F0T220E38sCjh2i35C38792020zX4W86WEW5r3y1x7Ac12x152M17T4y1LY230y3JCJCt29Og4r21d2112021",
     "231B10161X21327161R131410361yA2h92YIt13o171D16ta1U65i8z1r4i1A62941fATIh14950zER49x6T2A40k",
     "F613111E1f628m1a2704941fPa2j2y1d631Q11102019131010604010101211102010101010111023161313101",
     "91G52141Gq11r8h14b3CE2E1E1a1An5u1SDh14871E5z4rV14G3C3u34W36B40FB4t1896d18T2B41V2yACD2C395",
     "t17E2A687r41d3cX1Wji1W1ze46Z72vz5EWt7FWKmm2jHnm1eZ55bg4"]⟩,
   ⟨["graphemeextend", "grext"],
    ["tOn3w86k8i110111110f2Am1KG0d36252113Z10UQy2Aw1890O3181214h12x18g1N1V1t1010474036A1T0w1010",
     "238090A1Q021v1041412230U130B1v10441140K1M510w1011138072A1U0x1010C090e1030t1012521371B1T0w",
     "102110321371B1S1v1110238090A1T0f2040221080o2026C7a3028B6g21R01010t1D14115A1Z190e33151121P",
     "142G3D02160F0qM2lU3S2T1U1X2116802A90j1210t31Y10u32419062X7120w10161010276920m1Un13m1942c1",
     "8C1W1325u10113014u1721x421C16406031h6W2xG0e6W1Wb32m40Y3V1wH5h31WhV1319W11n21t803040P150w4",
     "1QHD0c17PA10i12m10232120a10a252121C080l10p1012215110g1180q702040yXL0tNFGFuB1lJ0e70u44wr12",
     "1153e1240f51kI3Y24cA1m23d2An13z30s1Ef1021A2n132170z12a1417V20C1q18108320X32236020X5037L1v",
     "111010C090E634a20251020124210E1s272210N0o202510201111n70236111R1s272011i301027d30102314g8",
     "811x70A340p432140W19e1523809522k1C11YD61510p2L261111y3530111610f213010bB1B1q1452N0mm506Eu",
     "xBB32ln24x16uX10W23o20B1ZiK1tw4j12MkH4358726U3t42vW2s14n180E0M41Ewh161G261114c30a56YC0z13",
     "hG3b81sN6l36finQX3Z4r7"]⟩,
   ⟨["graphemelink", "grlink"],
    ["uj20Y40Y40Y40Y40Y40Y40Y40l31G0V40n30Y40k60u51mu11U0X50XL0f70d31d21wp40uoW10b10w40n40k30z9",
     "0y70wYP0sn10f10E0v10x31k40s30u50a30Z42p30Y40Z80Y40u30s30q80g81b50q20I0o20nD0h81o20rD1hmH0"]⟩,
   ⟨["hexdigit", "hex"], ["m1975Q5Vva2975Q5"]⟩,
   ⟨["hyphen"], ["j10Y40Ze10ox40gZ21tr30vN0crs10j50u20"]⟩,
   ⟨["idcompatmathcontinue"], ["s5150wi803A1EzB040M0ses30P0V10P0V10P0V10P0V10P0"]⟩,
   ⟨["idcompatmathstart"], ["vW9040M0ses30P0V10P0V10P0V10P0V10P0"]⟩,
   ⟨["idcontinue", "idc"],
    ["m197P401Pl10A010205M1U1sE4BE47010Hs311231064101J1p21j4142f51b1206e18i1101111108Q43TA5g24d",
     "317291I20Gw12c3Er140202j1IR4A5N158h21Z4291I17212L1610332821238041142BA0102215412L16111111",
     "201441223073107FB218121L16111429121220F329961217212L1611142821227241142910G11532133110113",
     "1323B4432132060E9GC121M1F2812137112202329G317121M19142812137161132912CC121o11214537429A51",
     "21H3N181026304510176921Dv15E19d1110141N101M2410161923W10N169B01010491Z14J1H1Z190v1g26k22b",
     "110502g11rA132610132e1132W1132610132E1u1132Z22298EFGs2253zJ2G1P5h23A7L9LBJCC1211Cq2304129",
     "X121A6v27g15c2AU1B4BAd124Bh14P6Ab1R4V21S2A69D08D1Fn1j239H8Cr3Ct1893m12A5g122G21c15bH252b1",
     "25271010101U2q11610321633254C5216F1n11J0S0D0GCp1C403BH0402910256010101F235440He1it2g768Cb",
     "110502t170FN96161616161616161V1qG2PE14244s2261W35g11V3HV1m1FlGov6X2rWNa2j12p83RKl1491q3b1",
     "82e32Z2211017Lr140Jp1Cc2A96N301m12Z1CS3X2EA6U1s19D296M3f2O22F24A5252596161g11D6y311296goB",
     "CM4m1pt8tB2h3c16C45B1C141011111j3X1qBIW22r1e1B4FGF31O2W141f4J97P401PAw235252522Z1B1P1I111",
     "E2DY1y3c2q1h40b4S3m1F0V1V1DT5g15T2Z14714g1X5296Z14Z14d18p1CA1E16111A1E16113p1CVA9LA7O51f1",
     "18c25201h111302MAM9UY2I11ALAPd2t161X231157121S2240W1S3SZ171TPr1ALAIDHm3f2t1o1Do1Dd1896b13",
     "41MX8f11131G2t1W1A08W1V1Lg1KRM9d2V1F9x170DO796q119438Z1209b2431C10Z1H1a163V2610131E197w15",
     "96317212L1611141921222060562634B910201b11910201317D1Th25943Uc21089g5r128N5Y1X230B9c1u1796",
     "JSQ2E4966z5w1d3g2L72027111T1128C9d272j12711RV2808g230If2i6W1F9681i118F9OT2L1Dg26111h13011",
     "188965111a1111579VAM9G1e134DAs20m2rTe3m3He6Ws2Y3FmY1GLAvZ45tIqY7v1yt1fI7U196l2196T24Bs193",
     "C99K5IyDi139h6W2Z4h24u17GX2111B1Exg68xd1f19ce9316111g9F0T220E38sCjh2i35C387931sf49rGj12Mk",
     "H4358726U3t42eEr21d2112021231B10161X21327161R131410361yA2O1O1U1O1U1O1U1O1U1O172n1lGs14n18",
     "0E0M41EoZ1U65w661G2611145z1X10o3i13D2940gAUHv1aFf1x6g1pF613111E1f6B6f1i249hc131Q111020191",
     "3101060401010121110201010101011102316131310191G52141GWl39cX1Wji1W1ze46Z72vz5EWt7FWKmm2jHn",
     "m1eZ55bg4dxwNr7"]⟩,
   ⟨["ideographic", "ideo"],
    ["ntC1P8E2ZV1ov6X2ZvLzqNtB2h3laV10Rxg68xd1f19oq9sCVlKWji1W1ze46Z72vz5EWt7FWKmm2jHnm1eZ55bg4"]⟩,
   ⟨["idsbinaryoperator", "idsb"], ["wsC129WG0"]⟩,
   ⟨["idstart", "ids"],
    ["Y2P6Pl10A0405M1U1sE4BE47010a441123106012101J1p21j48f51b1206e1e2Q43j1g1Z111a310F171A220G01",
     "TTv2B0OW191405L409030NO7A5N15Hf1w1r130I079FF47212L16103330G0D112E1A085412L16111111V1310J2",
     "G8121L16111430I0F1N0B7212L16111430U112F0H015321331101131323BM0q17121M1F30Q22021U047121M19",
     "1430V1111F1H8121e120G05282O55H3N181026w1l111C6w1110141N101911902410L3W10W271Z1R4r3g1K0G54",
     "33031724CC0Hb110502g11rA132610132e1132W1132610132E1u1132Z2b1FGs2253zJ2G1P5h23A7HDIEHEC12F",
     "p1Z1040a2v27e1105c2AUn1T24Bh14Ps1M9q1p20V3k1H7s1TD1Ah1QZ1f12AZ12A5g122f131511305a6X2y8252",
     "b125271010101U2q11610321633254C5216s30D0GCd30402910256010101F235440He1it2g76331Cb110502t1",
     "70GM9616161616161616sH2P874244s2441w2135g11V3HV1m1FlGov6X2rWNa2j12p83FA1Kk1GU2m2d182e32Z2",
     "211017LF12131MTp1En1V253011BRAMPS7k1S0G419A41e1N217KM303n11031242010O22A72C5252596161g11D",
     "6q3TgoBCM4m1pt8tB2h3c16C450191C141011111j3X1qBIW22r1e1Bs341f4a1P6PBv235252522Z1B1P1I111E2",
     "DY1y3c2q1o8S3m1l1V1DT5b1AT2Z14714g1X5IZ14Z14d18p1CA1E16111A1E16113p1CVA9LA7O51f118c25201h",
     "111302MAM9UY2I11ALAPd2t161X20F3121Sg1S3SZ171RRr1ALAIDHm3f2t1o1Do1DZ1c1R9MX8f161G2x1SA08Lg",
     "1Hk1KRMCq1v1120Di1W1OQZ1T0208Y130Cl1E3L010Z1H1OJ1W2610131E197k1c17212L16111430I0C4U910201",
     "b110P010i1q1I3K2Ul1K110y5k1f13a1l1K0x1g1D0e2Qb16z5h1s3W2V172027111NF010W372c1G010S0Ad170L",
     "0Bj1J0If2i6W1V181a1H0n1To36111b1L0P5111V1E0mAIF01C1X1V40m2rTe3m3He6Ws2Y3FmY1H5PvZ45tIqY7T",
     "vu1fI7UHl2HTIl1G3V1K5IyDi1u6W2Z4h250Z2CX2110Sxg68xd1f19ce9316111g9F0T220E38sCjh2i35C3879c",
     "c6r21d2112021231B10161X21327161R131410361yA2O1O1U1O1U1O1U1O1U1O17kx1U65i8z1r4i1A6G0gATIh1",
     "oFRg7T20zF613111E1f6x1a270vc131Q1110201913101060401010121110201010101011102316131310191G5",
     "2141Gnn4Wji1W1ze46Z72vz5EWt7FWKmm2jHnm1eZ55bg4"]⟩,
   ⟨["idstrinaryoperator", "idst"], ["ysC1"]⟩,
   ⟨["idsunaryoperator", "idsu"], ["ftC1"]⟩,
   ⟨["joincontrol", "joinc"], ["pl81"]⟩,
   ⟨["logicalorderexception", "loe"], ["qt34z34fx2220coc112011"]⟩,
   ⟨["lowercase", "lower"],
    ["Z3Pl10A040a1N1710101010101010101010101010101010101010101010101010101011101010101010101110",
     "10101010101010101010101010101010101010101010201012201020314020322020101020111020301021226",
     "02020101010101010101110101010101010101120103010101010101010101010101010101010101010101010",
     "10101010101016202110401010101b21Z171U4Y30h10103023I0RY11132101010101010101010101014102021",
     "p1l11010101010101010101010101010101010901010101010101010101010101010101010101010101010101",
     "01020101010101011101010101010101010101010101010101010101010101010101010101010101010101010",
     "101010101010101010101010m1e1ZV3g113lO5dd2810t3a6Y2010101010101010101010101010101010101010",
     "10101010101010101010101010101010101010101010101010101010101010101010101010101010101010101",
     "01010101010101010101810101010101010101010101010101010101010101010101010101010101010101010",
     "10101010101010101010101010101885A78785A7878D2787878411603211832187A211x30D0GCl303130R0404",
     "0218340X1F40bRPXy1l1103110101040111730101010101010101010101010101010101010101010101010101",
     "01010101010101010101010101010101010101010101011701040Cb11050vcW10101010101010101010101010",
     "10101010101010101010J010101010101010101010101012e4010101010101210101010101010101010101010",
     "10101010101010101010101010101010101910102010101010401020121010101010101010101050501010101",
     "0101010401020301010101010M21012kQg11D6m2jYL6C4gY1Ppd1d1h4Z1V5A1E1611mE0221f118jf1o1W4Lrz2",
     "V1XtMV1WXRPQ61HQPQ310161AQPQPQPQPQPQPQPQPQRSO15QO15QO15QO15QO1510kx191J65i8z1we2X1"]⟩,
   ⟨["math"],
    ["h10G2V10T010j1040b10V10kN220Q122VH2Zy60R2B030D0E3L4B4Y2C403144I04029102560312112153D10b2N",
     "1511414V11061Eo883K1x20UQ10O0B6gE1C945412134E01025B751v1010T392vAW2d8kGm1K25lgt10mQ510c50",
     "G2T010T010c4063mo31rvq1r21d2112021231B10161X21327161R131410361yA2h92n1qv531Q1110201913101",
     "060401010121110201010101011102316131310191G52141Gq11"]⟩,
   ⟨["modifiercombiningmark", "mcm"], ["dq1120c406031lF11230V10"]⟩,
   ⟨["noncharactercodepoint", "nchar"],
    ["Voa2V1zG1Vbb21Vbb21Vbb21Vbb21Vbb21Vbb21Vbb21Vbb21Vbb21Vbb21Vbb21Vbb21Vbb21Vbb21Vbb21Vbb21"]⟩,
   ⟨["otheralphabetic", "oalpha"],
    ["VR0TCnID10111110f2Am1C16G0d36432140Z10UFe3Ad31381213i30y1B366Js112E1152A1T2w162121A0A1T2w",
     "14412140U130B2w171211L1M242w16212191A1U0x143212A0e14v16121281B1T2w16121281B1F0C3w161212A0",
     "A1T2i251017I1z1026I0b302511G0d5I9A1Z1m3B1023N342122633DB10A3er11U1U1U1Z2IX61Y10u3B48a74v1",
     "92Jh21B2n14m1Ey12U821v1Ao1IeDX1tt1p1Vh2V1rXW17Y11iB080N4v21o1F10v10c14SBj13m1Bb10a2DC081j",
     "12o10122150i1450p77WYL0wb24wr121153iP3Y20gA1m20g82r1Dj11B2j1890z12a1BI1v12m1CE1z28206020X",
     "59N3w162121A0A1r2810201311f3C12i3Hp7626T1p2E10i3Af3De8Cz7511213010n462540S9g1413IAk1DZD71",
     "6q2L1Dy353011121030Z241113cB39110m1632xlHGps301s173V31aiK0ai961G261114c30ze20eY2P6P6P"]⟩,
   ⟨["otherdefaultignorablecodepoint", "odi"], ["fR0Ys31cq11re20fl40Xys10m28XmnS01TY3Y4s7Ys3"]⟩,
   ⟨["othergraphemeextend", "ogrext"],
    ["jn20O0mB0O0e30O0k7010411191f30O0v30F0Wj20U0WX10501051d30e21uX10be41gdW10k30XwM1qu40s30l80",
     "E090Y3090201250c70C0t70j80iK0C0pn10dkL1syP165cttQX3"]⟩,
   ⟨["otheridcontinue", "oidc"], ["x50bN0Zc48xq10Zp11tk40mzs10"]⟩,
   ⟨["otheridstart", "oids"], ["kl61sd20L0gY41"]⟩,
   ⟨["otherlowercase", "olower"],
    ["k50F0aG871U4Y30q10ln30oc3V2D0Y1a1cM0D0GCu6FgRPlV21jlW11t60a4231yR390jlO0221f118lpv1z1"]⟩,
   ⟨["othermath", "omath"],
    ["W30iS220Q121dk70R2B0W13O1E1Y2C403144I04029103460312112153354i24231111101421414H2110161061",
     "g93i5110O0H0gE1C854512134E01025O1v1010T391WB1V19VDLW23W11xmu101040u6010ypu1r21d2112021231",
     "B10161X21327161R131410361yA2O1O1U1O1U1O1U1O1U1O172n1qv531Q1110201913101060401010121110201",
     "010101011102316131310191G52141G"]⟩,
   ⟨["otheruppercase", "oupper"], ["ow8FWRPuoy3P6P6P"]⟩,
   ⟨["patternsyntax", "patsyn"],
    ["X1EA6Q310Q3Y1610111011404030N0V10td8N8E2I19v9bNa5eKUka1lGY4iC24OF0fos11i81"]⟩,
   ⟨["patternwhitespace", "patws"], ["94I0c30hh81O1"]⟩,
   ⟨["prependedconcatenationmark", "pcm"], ["mn15y60n10hC1n20xdd20F0"]⟩,
   ⟨["quotationmark", "qmark"], ["Y1040c40F0zf87P1vr30sE3D2cxs13Y6040x21"]⟩,
   ⟨["radical"], ["VhCP1v2Cw6"]⟩,
   ⟨["regionalindicator", "ri"], ["qod4P"]⟩,
   ⟨["sentenceterminal", "sterm"],
    ["X10C0G0ph10s42u50h12y70z101031j91xu11kP041yO0h61X51j1050ZA1iB3c51A121T2W61Y21XU0N192sg32w",
     "90D0M1vD0XaV10r81f7030fC1t21X30x41s42p41W80hwL021x1031j50C0G0Y20jx21bf14i13Y61t33Y42a4160",
     "G1v2111k30o91t31WC15Eh31W82qG010Y81u21mD1fM1h21qVK1e40Y21B0vH1m90ftK0zy70"]⟩,
   ⟨["softdotted", "sd"],
    ["h31f60X90U0q10K0fA0a3010sp60p10D030d40X50nD0x61jz20kvo31o11o11o11o11o11o11o11o11o11o11o11",
     "o11hd20v91Q0"]⟩,
   ⟨["terminalpunctuation", "term"],
    ["X10A010B130tQ080mG0v10f20E012u50h1A10n71s1517V10i81xe11m5045WA1jP7yO0V42e21X5230d1321ZA1i",
     "B3c51A112T2W64V21XU0N192sg32w90D040A01131uD1WaV11q82f74fC1t21X30w42s42Y40G1W80hwL021v1213",
     "j50A010B130Y2020xY10m10gb10i60VA1x45b25w23rU4i13Y66o33Y42a4160G1v24k30o91t32C1mB33Eh31W82",
     "qG010Y81u2141gD2j10uK1h21qg14voI1e40Y22A0vH1l91ftK0yy73"]⟩,
   ⟨["unifiedideograph", "uideo"],
    ["ivDov6X2ZvLqzN11011A0101122dsc2Wji1W1ze46Z72vz5EWt7FWKoq4eZ55bg4"]⟩,
   ⟨["uppercase", "upper"],
    ["Y2Pd3M16X10101010101010101010101010101010101010101010101010101010201010101010101020101010",
     "10101010101010101010101010101010101010111010311011122311123111101011102011121011307020202",
     "01010101010101020101010101010101020201210101010101010101010101010101010101010101010101010",
     "101010107111201310101010f90103080601210111G18Z10223010101010101010101010105020112o1m10101",
     "01010101010101010101010101010901010101010101010101010101010101010101010101010101010111010",
     "10101010201010101010101010101010101010101010101010101010101010101010101010101010101010101",
     "0101010101010102b1bV3b11050eNs2ud206g122fA01010101010101010101010101010101010101010101010",
     "10101010101010101010101010101010101010101010101010101010101010101010101010101010101010101",
     "01010101010109010101010101010101010101010101010101010101010101010101010101010101010101010",
     "10101010101010101010109785A78785B010101087f23C3C3C4B3j8040322220346010101323A150QFJ0hQPgx",
     "1l1m1012201010131020821010101010101010101010101010101010101010101010101010101010101010101",
     "0101010101010101010101010101010801040reW1010101010101010101010101010101010101010101010J01",
     "0101010101010101010101010g401010101010103010101010101010101010101010101010101010101010101",
     "0101010101010A010111010101040102010301010101010101010101414101010101010101310113050101010",
     "O0vbNPhd1d1h4Z1W5A1E1611Yv1o1X5Lrz2V1XtMV1cXRPQPQPQ01120212317QPQ1132716R113141036RPQPQPQ",
     "PQPQPUOX1OX1OX1OX1OX10Yn4X1lZ2P6P6P"]⟩,
   ⟨["variationselector", "vs"], ["mh6210vcz1FYfoSr7"]⟩,
   ⟨["whitespace", "wspace", "space"], ["94I0c30Q0ou50il2AT150l10Wa40"]⟩,
   ⟨["xidcontinue", "xidc"],
    ["m197P401Pl10A010205M1U1sE4BE47010Hs311321064101J1p21j4142f51b1206e18i1101111108Q43TA5g24d",
     "317291I20Gw12c3Er140202j1IR4A5N158h21Z4291I17212L1610332821238041142BA0102215412L16111111",
     "201441223073107FB218121L16111429121220F329961217212L1611142821227241142910G11532133110113",
     "1323B4432132060E9GC121M1F2812137112202329G317121M19142812137161132912CC121o11214537429A51",
     "21H3N181026304510176921Dv15E19d1110141N101M2410161923W10N169B01010491Z14J1H1Z190v1g26k22b",
     "110502g11rA132610132e1132W1132610132E1u1132Z22298EFGs2253zJ2G1P5h23A7L9LBJCC1211Cq2304129",
     "X121A6v27g15c2AU1B4BAd124Bh14P6Ab1R4V21S2A69D08D1Fn1j239H8Cr3Ct1893m12A5g122G21c15bH252b1",
     "25271010101U2q11610321633254C5216F1n11J0S0D0GCp1C403BH0402910256010101F235440He1it2g768Cb",
     "110502t170FN96161616161616161V1qG2PE14244s221221W35g11V3HV1m1FlGov6X2rWNa2j12p83RKl1491q3",
     "b182e32Z2211017Lr140Jp1Cc2A96N301m12Z1CS3X2EA6U1s19D296M3f2O22F24A5252596161g11D6y311296g",
     "oBCM4m1pt8tB2h3c16C45B1C141011111j3X1j46V7IW22r1e196FGF31O2X1010301010101W4J97P401PAw2352",
     "52522Z1B1P1I111E2DY1y3c2q1h40b4S3m1F0V1V1DT5g15T2Z14714g1X5296Z14Z14d18p1CA1E16111A1E1611",
     "3p1CVA9LA7O51f118c25201h111302MAM9UY2I11ALAPd2t161X231157121S2240W1S3SZ171TPr1ALAIDHm3f2t",
     "1o1Do1Dd1896b1341MX8f11131G2t1W1A08W1V1Lg1KRM9d2V1F9x170DO796q119438Z1209b2431C10Z1H1a163",
     "V2610131E197w1596317212L1611141921222060562634B910201b11910201317D1Th25943Uc21089g5r128N5",
     "Y1X230B9c1u1796JSQ2E4966z5w1d3g2L72027111T1128C9d272j12711RV2808g230If2i6W1F9681i118F9OT2",
     "L1Dg26111h13011188965111a1111579VAM9G1e134DAs20m2rTe3m3He6Ws2Y3FmY1GLAvZ45tIqY7v1yt1fI7U1",
     "96l2196T24Bs193C99K5IyDi139h6W2Z4h24u17GX2111B1Exg68xd1f19ce9316111g9F0T220E38sCjh2i35C38",
     "7931sf49rGj12MkH4358726U3t42eEr21d2112021231B10161X21327161R131410361yA2O1O1U1O1U1O1U1O1U",
     "1O172n1lGs14n180E0M41EoZ1U65w661G2611145z1X10o3i13D2940gAUHv1aFf1x6g1pF613111E1f6B6f1i249",
     "hc131Q1110201913101060401010121110201010101011102316131310191G52141GWl39cX1Wji1W1ze46Z72v",
     "z5EWt7FWKmm2jHnm1eZ55bg4dxwNr7"]⟩,
   ⟨["xidstart", "xids"],
    ["Y2P6Pl10A0405M1U1sE4BE47010a441132106012101J1p21j48f51b1206e1e2Q43j1g1Z111a310F171A220G01",
     "TTv2B0OW191405L409030NO7A5N15Hf1w1r130I079FF47212L16103330G0D112E1A085412L16111111V1310J2",
     "G8121L16111430I0F1N0B7212L16111430U112F0H015321331101131323BM0q17121M1F30Q22021U047121M19",
     "1430V1111F1H8121e120G05282O55H3N181026w1l110D6w1110141N101910A02410L3W10W271Z1R4r3g1K0G54",
     "33031724CC0Hb110502g11rA132610132e1132W1132610132E1u1132Z2b1FGs2253zJ2G1P5h23A7HDIEHEC12F",
     "p1Z1040a2v27e1105c2AUn1T24Bh14Ps1M9q1p20V3k1H7s1TD1Ah1QZ1f12AZ12A5g122f131511305a6X2y8252",
     "b125271010101U2q11610321633254C5216s30D0GCd30402910256010101F235440He1it2g76331Cb110502t1",
     "70GM9616161616161616sH2P874244s2621w2135g11V3HV1m1FlGov6X2rWNa2j12p83FA1Kk1GU2m2d182e32Z2",
     "211017LF12131MTp1En1V253011BRAMPS7k1S0G419A41e1N217KM303n11031242010O22A72C5252596161g11D",
     "6q3TgoBCM4m1pt8tB2h3c16C450191C141011111j3X1j46V7IW22r1e19v3010301010101W4a1P6PBt12U35252",
     "522Z1B1P1I111E2DY1y3c2q1o8S3m1l1V1DT5b1AT2Z14714g1X5IZ14Z14d18p1CA1E16111A1E16113p1CVA9LA",
     "7O51f118c25201h111302MAM9UY2I11ALAPd2t161X20F3121Sg1S3SZ171RRr1ALAIDHm3f2t1o1Do1DZ1c1R9MX",
     "8f161G2x1SA08Lg1Hk1KRMCq1v1120Di1W1OQZ1T0208Y130Cl1E3L010Z1H1OJ1W2610131E197k1c17212L1611",
     "1430I0C4U910201b110P010i1q1I3K2Ul1K110y5k1f13a1l1K0x1g1D0e2Qb16z5h1s3W2V172027111NF010W37",
     "2c1G010S0Ad170L0Bj1J0If2i6W1V181a1H0n1To36111b1L0P5111V1E0mAIF01C1X1V40m2rTe3m3He6Ws2Y3Fm",
     "Y1H5PvZ45tIqY7Tvu1fI7UHl2HTIl1G3V1K5IyDi1u6W2Z4h250Z2CX2110Sxg68xd1f19ce9316111g9F0T220E3",
     "8sCjh2i35C3879cc6r21d2112021231B10161X21327161R131410361yA2O1O1U1O1U1O1U1O1U1O17kx1U65i8z",
     "1r4i1A6G0gATIh1oFRg7T20zF613111E1f6x1a270vc131Q111020191310106040101012111020101010101110",
     "2316131310191G52141Gnn4Wji1W1ze46Z72vz5EWt7FWKmm2jHnm1eZ55bg4"]⟩]

end NamePattern.CharRegex.Property

import RuleWatch.Text.CodeSet

/-!
The mapping of characters in host names: capital letters and the other forms of
a character are brought to one form, some characters are dropped, and some may
not stand in a host name at all. Characters whose one form is the canonical
composition are left alone, because host names are composed after the mapping.
-/

namespace RuleWatch.Unicode

open Text

/-- Characters mapped to those at a fixed distance above them. -/
def mappedUp : String :=
  "41-5A+20 B5+307 C0-D6+20 D8-DE+20 100-12E/2+1 134-136/2+1 139-13D/2+1
   141-147/2+1 14A-176/2+1 179-17D/2+1 181+D2 182-184/2+1 186+CE 187+1
   189-18A+CD 18B+1 18E+4F 18F+CA 190+CB 191+1 193+CD 194+CF 196+D3 197+D1 198+1
   19C+D3 19D+D5 19F+D6 1A0-1A4/2+1 1A6+DA 1A7+1 1A9+DA 1AC+1 1AE+DA 1AF+1
   1B1-1B2+D9 1B3-1B5/2+1 1B7+DB 1B8+1 1BC+1 1CD-1DB/2+1 1DE-1EE/2+1 1F4+1
   1F8-21E/2+1 222-232/2+1 23A+2A2B 23B+1 23E+2A28 241+1 244+45 245+47
   246-24E/2+1 345+74 370-372/2+1 376+1 37F+74 386+26 388-38A+25 38C+40
   38E-38F+3F 391-3A1+20 3A3-3AB+20 3CF+8 3D8-3EE/2+1 3F7+1 3FA+1 400-40F+50
   410-42F+20 460-480/2+1 48A-4BE/2+1 4C0+F 4C1-4CD/2+1 4D0-52E/2+1 531-556+30
   10A0-10C5+1C60 10C7+1C60 10CD+1C60 1C88+89C3 1C89+1 1E00-1E94/2+1
   1EA0-1EFE/2+1 207B+197 208B+187 2132+1C 2140+D1 2183+1 2C00-2C2F+30 2C60+1
   2C67-2C6B/2+1 2C72+1 2C75+1 2C80-2CE2/2+1 2CEB-2CED/2+1 2CF2+1 2E9F+3D2E
   2EF3+70AC 2F00+1F00 2F01+1F27 2F02+1F34 2F03+1F3C 2F04+1F55 2F05+1F80
   2F06+1F86 2F07+1F99 2F08+1FB2 2F09+2236 2F0A+225B 2F0B+2260 2F0C+2276
   2F0D+2289 2F0E+229D 2F0F+22D1 2F10+22E5 2F11+22EF 2F12+2389 2F13+23E6
   2F14+2401 2F15+2405 2F16+2422 2F17+242A 2F18+2444 2F19+2450 2F1A+2468
   2F1B+249B 2F1C+24AC 2F1D+24C6 2F1E+27B9 2F1F+2800 2F20+29CB 2F21+29E1
   2F22+29E8 2F23+29F2 2F24+2A03 2F25+2A4E 2F26+2C2A 2F27+2C59 2F28+2CD0
   2F29+2CE6 2F2A+2CF8 2F2B+2D0D 2F2C+2D42 2F2D+2D44 2F2E+2EAD 2F2F+2EB6
   2F30+2EC1 2F31+2ECD 2F32+2F40 2F33+2F47 2F34+2F4B 2F35+2FBF 2F36+2FC8
   2F37+2FD4 2F38+2FDB 2F39+3017 2F3A+3027 2F3B+3038 2F3C+3087 2F3D+32CB
   2F3E+32F8 2F3F+330C 2F40+35EF 2F41+35F3 2F42+3645 2F43+3654 2F44+3660
   2F45+3674 2F46+369A 2F47+369E 2F48+37A8 2F49+37BF 2F4A+37DE 2F4B+3BD5
   2F4C+3C16 2F4D+3C2C 2F4E+3C65 2F4F+3C7C 2F50+3C84 2F51+3C8A 2F52+3CBD
   2F53+3CC1 2F54+3CE0 2F55+4116 2F56+42D4 2F57+42DF 2F58+42E3 2F59+42E6
   2F5A+42ED 2F5B+42FE 2F5C+42FF 2F5D+434F 2F5E+4426 2F5F+442A 2F60+457C
   2F61+4585 2F62+45B6 2F63+45BC 2F64+45C4 2F65+45CB 2F66+4625 2F67+462B
   2F68+470E 2F69+4714 2F6A+4744 2F6B+4754 2F6C+4782 2F6D+486E 2F6E+4874
   2F6F+4884 2F70+49CA 2F71+4A47 2F72+4A4C 2F73+4B01 2F74+4B57 2F75+4B84
   2F76+4CFD 2F77+4D81 2F78+4FBE 2F79+4FD8 2F7A+5010 2F7B+5042 2F7C+5085
   2F7D+508F 2F7E+5094 2F7F+50B4 2F80+50FF 2F81+5108 2F82+5261 2F83+5267
   2F84+526F 2F85+5277 2F86+5286 2F87+5294 2F88+5297 2F89+52E5 2F8A+52E8
   2F8B+52ED 2F8C+56C1 2F8D+56DE 2F8E+58B2 2F8F+58BD 2F90+58D3 2F91+59ED
   2F92+59F9 2F93+5A3F 2F94+5A6C 2F95+5CA2 2F96+5CB0 2F97+5CBE 2F98+5CE0
   2F99+5D04 2F9A+5DCA 2F9B+5DD5 2F9C+5E17 2F9D+5F0E 2F9E+5F2C 2F9F+5FFC
   2FA0+6010 2FA1+6014 2FA2+60EF 2FA3+61A6 2FA4+6222 2FA5+6227 2FA6+622B
   2FA7+65D0 2FA8+65D8 2FA9+6673 2FAA+670C 2FAB+670E 2FAC+673C 2FAD+67A4
   2FAE+67B0 2FAF+67B3 2FB0+67B9 2FB1+681A 2FB2+683B 2FB3+6840 2FB4+684D
   2FB5+68F3 2FB6+6925 2FB7+6928 2FB8+69DE 2FB9+69E0 2FBA+69F2 2FBB+6AED
   2FBC+6B1C 2FBD+6B22 2FBE+6B67 2FBF+6B70 2FC0+6B72 2FC1+6B7B 2FC2+6B98
   2FC3+6D22 2FC4+6EB1 2FC5+6EBA 2FC6+6EDF 2FC7+6EF4 2FC8+6EFB 2FC9+6F04
   2FCA+6F07 2FCB+6F2E 2FCC+6F31 2FCD+6F41 2FCE+6F45 2FCF+6F51 2FD0+6F6B
   2FD1+6F79 2FD2+6F80 2FD3+6FBA 2FD4+6FC8 2FD5+6FCB 3038+2309 3039-303A+230B
   3192+1C6E 3193+1CF9 3194+1C75 3195+2546 3196+1C74 3197+1C96 3198+1C73
   3199+4399 319A+1CBF 319B+1C7E 319C+1C65 319D+278C 319E+2592 319F+1D1B
   3244+230B 3245+2C37 3246+3341 3247+4948 326E+7992 326F+7E29 3270+8074
   3271+850B 3272+8756 3273+89A1 3274+8E38 3275+92CF 3276+951A 3277+99B1
   3278+9BFC 3279+9E47 327A+A092 327B+A2DD 327E+9432 3280+1B80 3281+1C0B
   3282+1B87 3283+2458 3284+1C10 3285+1EE8 3286+1B7D 3287+1EE4 3288+1BD5
   3289+20B8 328A+347E 328B+3DE0 328C+39A8 328D+349B 328E+5F43 328F+2490
   3290+3355 3291+3599 3292+3477 3293+46AB 3294+2179 3295+3FE4 3296+5A0B
   3297+46C6 3298+201C 3299+473F 329A+429D 329B+26D8 329C+5DCD 329D+1E8D
   329E+20D2 329F+3A49 32A0+6565 32A1+1C70 32A2+1EF7 32A3+38C0 32A4+1B66
   32A5+1B88 32A6+1B65 32A7+2B3F 32A8+214B 32A9+2092 32AA+28ED 32AB+28BB
   32AC+4437 32AD+1C54 32AE+5A19 32AF+20A5 32B0+266C A640-A66C/2+1 A680-A69A/2+1
   A722-A72E/2+1 A732-A76E/2+1 A779-A77B/2+1 A77E-A786/2+1 A78B+1 A790-A792/2+1
   A796-A7A8/2+1 A7B3+3A0 A7B4-A7C2/2+1 A7C7-A7C9/2+1 A7CC-A7DA/2+1 A7F5+1
   10400-10427+28 104B0-104D3+28 10570-10594/2+27 10571-10579/2+27
   1057D-10589/2+27 1058D-10591/2+27 10595+27 1079C+D768 1079F+D766 107A1+D765
   107A7+D761 107B9+D751 107BA+D764 10C80-10CB2+40 10D50-10D65+20 118A0-118BF+20
   16E40-16E5F+20 16EA0-16EB8+1B 1E900-1E921+22"

/-- Characters mapped to those at a fixed distance below them. -/
def mappedDown : String :=
  "A0+80 AA+49 B2-B3+80 B9+88 BA+4B 178+79 17F+10C 1F6+61 1F7+38 220+82 23D+A3
   243+C3 2B0-2B2/2+248 2B1+4B 2B3+241 2B4+3B 2B5+3A 2B6+35 2B7+240 2B8+23F
   2E0+7D 2E1+275 2E2+26F 2E3+26B 2E4+4F 3D0+1E 3D1+19 3D2+D 3D3+6 3D4+9 3D5+F
   3D6+16 3F0+36 3F1+30 3F2+2F 3F4+3C 3F5+40 3F9+36 3FD-3FF+82 F0C+1 10FC+20
   13F8-13FD+8 1C80+184E 1C81+184D 1C82+1844 1C83-1C84+1842 1C85+1843 1C86+183C
   1C87+1824 1C90-1CBA+BC0 1CBD-1CBF+BC0 1D2C+1CCB 1D2D+1C47 1D2E-1D30/2+1CCC
   1D31-1D39/2+1CCC 1D32+1B55 1D34-1D3A/2+1CCC 1D3C+1CCD 1D3D+1B1A 1D3E+1CCE
   1D3F+1CCD 1D40-1D41+1CCC 1D42+1CCB 1D43+1CE2 1D44-1D45+1AF4 1D46+44 1D47+1CE5
   1D48-1D49+1CE4 1D4A+1AF1 1D4B-1D4C+1AF0 1D4D+1CE6 1D4F+1CE4 1D50-1D52/2+1CE3
   1D51+1C06 1D53+1AFF 1D54-1D55+3E 1D56+1CE6 1D57-1D58+1CE3 1D59+3C 1D5A+1AEB
   1D5B+1CE5 1D5C+37 1D5D-1D5F+19AB 1D60-1D61+199A 1D62+1CF9 1D63+1CF1
   1D64-1D65+1CEF 1D66-1D67+19B4 1D68+19A7 1D69-1D6A+19A3 1D78+193B 1D9B+1B49
   1D9C+1D39 1D9D+1B48 1D9E+1CAE 1D9F+1B43 1DA0+1D3A 1DA1+1B42 1DA2+1B41
   1DA3+1B3E 1DA4-1DA6+1B3C 1DA7+2C 1DA8+1B0B 1DA9+1B3C 1DAA+25 1DAB+1B0C
   1DAC+1B3B 1DAD+1B3D 1DAE-1DB1+1B3C 1DB2+1B3A 1DB3-1DB4+1B31 1DB5+1C0A
   1DB6-1DB7+1B2D 1DB8+9C 1DB9-1DBA+1B2E 1DBB+1D41 1DBC-1DBE+1B2C 1DBF+1A07
   1E9B+3A 1E9E+1DBF 1F08-1F0F+8 1F18-1F1D+8 1F28-1F2F+8 1F38-1F3F+8 1F48-1F4D+8
   1F59-1F5F/2+8 1F68-1F6F+8 1FB8-1FB9+8 1FBA+4A 1FBB+1C0F 1FC8-1FCA/2+56
   1FC9+1C1C 1FCB+1C1D 1FD8-1FD9+8 1FDA+64 1FDB+1C2C 1FE8-1FE9+8 1FEA+70
   1FEB+1C1E 1FEC+7 1FF8+80 1FF9-1FFB/2+1C2D 1FFA+7E 2000+1FE0 2001+1FE1
   2002+1FE2 2003+1FE3 2004+1FE4 2005+1FE5 2006+1FE6 2007+1FE7 2008+1FE8
   2009+1FE9 200A+1FEA 2011+1 202F+200F 205F+203F 2070+2040 2071+2008
   2074-2079+2040 207A+204F 207C+203F 207D-207E+2055 207F+2011 2080-2089+2050
   208A+205F 208C+204F 208D-208E+2065 2090+202F 2091+202C 2092+2023 2093+201B
   2094+1E3B 2095+202D 2096-2099+202B 209A+202A 209B-209C+2028 2102+209F
   2107+1EAC 210A-210B+20A3 210C+20A4 210D+20A5 210E+20A6 210F+1FE8 2110+20A7
   2111+20A8 2112+20A6 2113-2115/2+20A7 2119-211B+20A9 211C+20AA 211D+20AB
   2124+20AA 2126+1D5D 2128+20AE 212A+20BF 212B+2046 212C-212D+20CA 212F+20CA
   2130-2131+20CB 2133+20C6 2134+20C5 2135-2138+1B65 2139+20D0 213C+1D7C
   213D+1D8A 213E+1D8B 213F+1D7F 2145+20E1 2146-2147+20E2 2148-2149+20DF
   2160+20F7 2164+20EE 2169+20F1 216C+2100 216D-216E+210A 216F+2102 2170+2107
   2174+20FE 2179+2101 217C+2110 217D-217E+211A 217F+2112 2460-2468+242F
   24B6-24CF+2455 24D0-24E9+246F 24EA+24BA 2C62+29F7 2C63+EE6 2C64+29E7
   2C6D+2A1C 2C6E+29FD 2C6F+2A1F 2C70+2A1E 2C7C+2C12 2C7D+2C07 2C7E-2C7F+2A3F
   2D6F+E 3000+2FE0 3002+2FD4 3036+24 3131-3132+2031 3133-3135/2+1F89 3134+2032
   3136+1F89 3137-3139+2034 313A-313F+1F8A 3140+2026 3141-3143+203B 3144+2023
   3145-314E+203C 314F-3163+1FEE 3165-3166+2051 3167-3168+1FA0 3169+1F9D
   316A+1F9C 316B+1F98 316C+1F95 316D+1F94 316E+2052 316F+1F92 3170+1F91
   3171-3172+2054 3173+2053 3174-3175+2052 3176+204F 3177+204E 3178-317C+204D
   317D+204B 317E+2048 317F+203F 3180+2039 3181+2035 3182-3183+1F91
   3184-3186+202D 3187-3188+2003 3189+2001 318A-318B+1FF9 318C+1FF8 318D+1FEF
   318E+1FED 3260+2160 3261-3262+215F 3263-3265+215E 3266+215D 3267-3268+215C
   3269-326D+215B 32D0+22E 32D1+22D 32D2+22C 32D3+22B 32D4-32D5+22A 32D6+229
   32D7+228 32D8+227 32D9+226 32DA+225 32DB+224 32DC+223 32DD+222 32DE+221
   32DF+220 32E0+21F 32E1+21D 32E2+21C 32E3+21B 32E4-32E9+21A 32EA+218 32EB+216
   32EC+214 32ED+212 32EE-32F2+210 32F3+20F 32F4+20E 32F5-32FA+20D 32FB-32FE+20C
   A69C+A252 A69D+A251 A770+1 A77D+8A04 A78D+A528 A7AA+A544 A7AB+A54F A7AC+A54B
   A7AD+A541 A7AE+A544 A7B0+A512 A7B1+A52A A7B2+A515 A7C4+30 A7C5+A543 A7C6+8A38
   A7CB+A567 A7DC+A641 A7F1+A77E A7F2+A78F A7F3+A78D A7F4+A783 A7F8+A6D1
   A7F9+A6A6 AB5C+435 AB5D+26 AB5E+A8F3 AB5F+D AB69+A8DC AB70-ABBF+97D0
   FB20+F53E FB21+F551 FB22-FB23+F54F FB24-FB26+F549 FB27+F53F FB28+F53E
   FB29+FAFE FB50+F4DF FB51+F4E0 FB52+F4D7 FB53+F4D8 FB54+F4D9 FB55+F4DA
   FB56+F4D8 FB57+F4D9 FB58-FB5A/2+F4DA FB59-FB5B/2+F4DB FB5C+F4DC FB5D+F4DD
   FB5E+F4E4 FB5F+F4E5 FB60+F4E6 FB61+F4E7 FB62+F4E3 FB63+F4E4 FB64+F4E5
   FB65+F4E6 FB66+F4ED FB67+F4EE FB68+F4EF FB69+F4F0 FB6A+F4C6 FB6B+F4C7
   FB6C-FB6E/2+F4C8 FB6D-FB6F/2+F4C9 FB70+F4CA FB71+F4CB FB72+F4EE FB73+F4EF
   FB74+F4F0 FB75+F4F1 FB76+F4F3 FB77+F4F4 FB78+F4F5 FB79+F4F6 FB7A+F4F4
   FB7B+F4F5 FB7C+F4F6 FB7D-FB7E+F4F7 FB7F+F4F8 FB80+F4F9 FB81+F4FA FB82+F4F5
   FB83+F4F6 FB84-FB86/2+F4F8 FB85-FB87/2+F4F9 FB88+F500 FB89+F501 FB8A+F4F2
   FB8B+F4F3 FB8C+F4FB FB8D+F4FC FB8E+F4E5 FB8F+F4E6 FB90+F4E7 FB91+F4E8
   FB92+F4E3 FB93+F4E4 FB94+F4E5 FB95+F4E6 FB96+F4E3 FB97+F4E4 FB98+F4E5
   FB99+F4E6 FB9A+F4E9 FB9B+F4EA FB9C+F4EB FB9D+F4EC FB9E+F4E4 FB9F-FBA0+F4E5
   FBA1+F4E6 FBA2+F4E7 FBA3+F4E8 FBA4+F4E4 FBA5-FBA6+F4E5 FBA7+F4E6 FBA8+F4E7
   FBA9+F4E8 FBAA+F4EC FBAB+F4ED FBAC+F4EE FBAD+F4EF FBAE+F4DC FBAF-FBB0+F4DD
   FBB1+F4DE FBD3+F526 FBD4+F527 FBD5+F528 FBD6+F529 FBD7+F510 FBD8+F511
   FBD9-FBDB/2+F513 FBDA-FBDC/2+F514 FBDE+F513 FBDF+F514 FBE0+F51B FBE1+F51C
   FBE2+F519 FBE3+F51A FBE4+F514 FBE5+F515 FBE6+F516 FBE7+F517 FBE8+F59F
   FBE9+F5A0 FBFC+F530 FBFD+F531 FBFE+F532 FBFF+F533 FE10+FDE4 FE11+CE10
   FE13-FE14+FDD9 FE15+FDF4 FE16+FDD7 FE17-FE18+CE01 FE31+DE1D FE32+DE1F
   FE33+FDD4 FE34+FDD5 FE35-FE36+FE0D FE37+FDBC FE38+FDBB FE39-FE3A+CE25
   FE3B-FE3C+CE2B FE3D-FE3E+CE33 FE3F-FE40+CE37 FE41-FE44+CE35 FE47+FDEC
   FE48+FDEB FE4D+FDEE FE4E+FDEF FE4F+FDF0 FE50+FE24 FE51+CE50 FE54+FE19
   FE55+FE1B FE56+FE17 FE57+FE36 FE58+DE44 FE59-FE5A+FE31 FE5B+FDE0 FE5C+FDDF
   FE5D-FE5E+CE49 FE5F+FE3C FE60+FE3A FE61-FE62+FE37 FE63+FE36 FE64+FE28
   FE65+FE27 FE66+FE29 FE68+FE0C FE69-FE6A+FE45 FE6B+FE2B FE80-FE81+F85F
   FE82-FE83+F860 FE84-FE85+F861 FE86-FE87+F862 FE88-FE89+F863 FE8A+F864
   FE8B+F865 FE8C-FE8D+F866 FE8E-FE8F+F867 FE90+F868 FE91+F869 FE92-FE93+F86A
   FE94-FE95+F86B FE96+F86C FE97+F86D FE98-FE99+F86E FE9A+F86F FE9B+F870
   FE9C-FE9D+F871 FE9E+F872 FE9F+F873 FEA0-FEA1+F874 FEA2+F875 FEA3+F876
   FEA4-FEA5+F877 FEA6+F878 FEA7+F879 FEA8-FEA9+F87A FEAA-FEAB+F87B
   FEAC-FEAD+F87C FEAE-FEAF+F87D FEB0-FEB1+F87E FEB2+F87F FEB3+F880
   FEB4-FEB5+F881 FEB6+F882 FEB7+F883 FEB8-FEB9+F884 FEBA+F885 FEBB+F886
   FEBC-FEBD+F887 FEBE+F888 FEBF+F889 FEC0-FEC1+F88A FEC2+F88B FEC3+F88C
   FEC4-FEC5+F88D FEC6+F88E FEC7+F88F FEC8-FEC9+F890 FECA+F891 FECB+F892
   FECC-FECD+F893 FECE+F894 FECF+F895 FED0+F896 FED1+F890 FED2+F891 FED3+F892
   FED4-FED5+F893 FED6+F894 FED7+F895 FED8-FED9+F896 FEDA+F897 FEDB+F898
   FEDC-FEDD+F899 FEDE+F89A FEDF+F89B FEE0-FEE1+F89C FEE2+F89D FEE3+F89E
   FEE4-FEE5+F89F FEE6+F8A0 FEE7+F8A1 FEE8-FEE9+F8A2 FEEA+F8A3 FEEB+F8A4
   FEEC-FEED+F8A5 FEEE-FEEF+F8A6 FEF0-FEF1+F8A7 FEF2+F8A8 FEF3+F8A9 FEF4+F8AA
   FF01-FF20+FEE0 FF21-FF3A+FEC0 FF3B-FF5E+FEE0 FF5F-FF60+D5DA FF61+FF33
   FF62-FF63+CF56 FF64+CF63 FF65+CE6A FF66+CE74 FF67+CEC6 FF68+CEC5 FF69+CEC4
   FF6A+CEC3 FF6B+CEC2 FF6C+CE89 FF6D+CE88 FF6E+CE87 FF6F+CEAC FF70+CE74
   FF71+CECF FF72+CECE FF73+CECD FF74+CECC FF75-FF76+CECB FF77+CECA FF78+CEC9
   FF79+CEC8 FF7A+CEC7 FF7B+CEC6 FF7C+CEC5 FF7D+CEC4 FF7E+CEC3 FF7F+CEC2
   FF80+CEC1 FF81+CEC0 FF82+CEBE FF83+CEBD FF84+CEBC FF85-FF8A+CEBB FF8B+CEB9
   FF8C+CEB7 FF8D+CEB5 FF8E+CEB3 FF8F-FF93+CEB1 FF94+CEB0 FF95+CEAF
   FF96-FF9B+CEAE FF9C+CEAD FF9D+CEAA FF9E-FF9F+CF05 FFA1-FFA2+EEA1
   FFA3-FFA5/2+EDF9 FFA4+EEA2 FFA6+EDF9 FFA7-FFA9+EEA4 FFAA-FFAF+EDFA FFB0+EE96
   FFB1-FFB3+EEAB FFB4+EE93 FFB5-FFBE+EEAC FFC2-FFC7+EE61 FFCA-FFCF+EE63
   FFD2-FFD7+EE65 FFDA-FFDC+EE67 FFE0-FFE1+FF3E FFE2+FF36 FFE4+FF3E FFE5+FF40
   FFE6+DF3D FFE8+DAE6 FFE9-FFEC+DE59 FFED+DA4D FFEE+DA23 10781-10782+104B1
   10783+1069D 10784+104EB 10785+10532 10787-10789/2+104E4 10788+5C22
   1078A+104E6 1078B-1078C+10535 1078D+E9FC 1078E+10536 1078F+10531 10790+104E7
   10791+1052D 10792+10530 10793+10533 10794+104F9 10795+1066E 10796+104FA
   10797+10530 10798+10514 10799-1079A+104EF 1079B+1052F 1079D+600F 1079E+10530
   107A0+10512 107A2+106AA 107A3-107A4+1052D 107A5+10734 107A6+1052C
   107A8-107A9+1052B 107AA+1052A 107AB+10503 107AC+10506 107AD+5C46 107AE+10507
   107AF+10527 107B0+DB3F 107B2+10523 107B3-107B4+10512 107B5+1051D
   107B6-107B8+105F6 1CCD6-1CCEF+1CC75 1CCF0-1CCF9+1CCC0 1D400-1D419+1D39F
   1D41A-1D433+1D3B9 1D434-1D44D+1D3D3 1D44E-1D466/2+1D3ED 1D44F-1D453/2+1D3ED
   1D457-1D467/2+1D3ED 1D468-1D481+1D407 1D482-1D49B+1D421 1D49C-1D49E/2+1D43B
   1D49F+1D43B 1D4A2+1D43B 1D4A5-1D4A6+1D43B 1D4A9-1D4AC+1D43B 1D4AE-1D4B5+1D43B
   1D4B6-1D4B9+1D455 1D4BB-1D4CF/2+1D455 1D4BE-1D4C2/2+1D455 1D4C6-1D4CE/2+1D455
   1D4D0-1D4E9+1D46F 1D4EA-1D503+1D489 1D504-1D505+1D4A3 1D507-1D50A+1D4A3
   1D50D-1D514+1D4A3 1D516-1D51C+1D4A3 1D51E-1D537+1D4BD 1D538-1D539+1D4D7
   1D53B-1D53E+1D4D7 1D540-1D544+1D4D7 1D546+1D4D7 1D54A-1D550+1D4D7
   1D552-1D56B+1D4F1 1D56C-1D585+1D50B 1D586-1D59F+1D525 1D5A0-1D5B9+1D53F
   1D5BA-1D5D3+1D559 1D5D4-1D5ED+1D573 1D5EE-1D607+1D58D 1D608-1D621+1D5A7
   1D622-1D63B+1D5C1 1D63C-1D655+1D5DB 1D656-1D66F+1D5F5 1D670-1D689+1D60F
   1D68A-1D6A3+1D629 1D6A4+1D573 1D6A5+1D46E 1D6A8-1D6B8+1D2F7 1D6B9+1D301
   1D6BA-1D6C0+1D2F7 1D6C1+1B4BA 1D6C2-1D6D2+1D311 1D6D3+1D310 1D6D4-1D6DA+1D311
   1D6DB+1B4D9 1D6DC+1D327 1D6DD+1D325 1D6DE+1D324 1D6DF+1D319 1D6E0+1D31F
   1D6E1+1D321 1D6E2-1D6F2+1D331 1D6F3+1D33B 1D6F4-1D6FA+1D331 1D6FB+1B4F4
   1D6FC-1D70C+1D34B 1D70D+1D34A 1D70E-1D714+1D34B 1D715+1B513 1D716+1D361
   1D717+1D35F 1D718+1D35E 1D719+1D353 1D71A+1D359 1D71B+1D35B 1D71C-1D72C+1D36B
   1D72D+1D375 1D72E-1D734+1D36B 1D735+1B52E 1D736-1D746+1D385 1D747+1D384
   1D748-1D74E+1D385 1D74F+1B54D 1D750+1D39B 1D751+1D399 1D752+1D398 1D753+1D38D
   1D754+1D393 1D755+1D395 1D756-1D766+1D3A5 1D767+1D3AF 1D768-1D76E+1D3A5
   1D76F+1B568 1D770-1D780+1D3BF 1D781+1D3BE 1D782-1D788+1D3BF 1D789+1B587
   1D78A+1D3D5 1D78B+1D3D3 1D78C+1D3D2 1D78D+1D3C7 1D78E+1D3CD 1D78F+1D3CF
   1D790-1D7A0+1D3DF 1D7A1+1D3E9 1D7A2-1D7A8+1D3DF 1D7A9+1B5A2 1D7AA-1D7BA+1D3F9
   1D7BB+1D3F8 1D7BC-1D7C2+1D3F9 1D7C3+1B5C1 1D7C4+1D40F 1D7C5+1D40D 1D7C6+1D40C
   1D7C7+1D401 1D7C8+1D407 1D7C9+1D409 1D7CA+1D3ED 1D7CB+1D3EE 1D7CE-1D7D7+1D79E
   1D7D8-1D7E1+1D7A8 1D7E2-1D7EB+1D7B2 1D7EC-1D7F5+1D7BC 1D7F6-1D7FF+1D7C6
   1E030-1E038+1DC00 1E039-1E03B+1DBFF 1E03C-1E046+1DBFE 1E047+1DBFC
   1E048-1E049+1DBFB 1E04A+139C1 1E04B+1DB72 1E04C+1DBF6 1E04D+1DBF5 1E04E+1DB65
   1E04F+1DBA0 1E050+1DB81 1E051-1E059+1DC21 1E05A-1E05B+1DC20 1E05C-1E05D+1DC1E
   1E05E+1DC1D 1E05F-1E064+1DC1C 1E065-1E066+1DC1B 1E067+1DBD6 1E068+1DC12
   1E069+1DC14 1E06A+1DC0B 1E06B+1DBC0 1E06C+13A1B 1E06D+1DBBC 1EE00-1EE01+1E7D9
   1EE02+1E7D6 1EE03+1E7D4 1EE05+1E7BD 1EE06+1E7D4 1EE07+1E7DA 1EE08+1E7D1
   1EE09+1E7BF 1EE0A-1EE0D+1E7C7 1EE0E+1E7DB 1EE0F+1E7D6 1EE10+1E7CF 1EE11+1E7DC
   1EE12+1E7D0 1EE13+1E7E2 1EE14+1E7E0 1EE15-1EE16+1E7EB 1EE17+1E7E9 1EE18+1E7E8
   1EE19+1E7E3 1EE1A+1E7E2 1EE1B+1E7E1 1EE1C+1E7AE 1EE1D+1E763 1EE1E+1E77D
   1EE1F+1E7B0 1EE21+1E7F9 1EE22+1E7F6 1EE24+1E7DD 1EE27+1E7FA 1EE29+1E7DF
   1EE2A-1EE2D+1E7E7 1EE2E+1E7FB 1EE2F+1E7F6 1EE30+1E7EF 1EE31+1E7FC 1EE32+1E7F0
   1EE34+1E800 1EE35-1EE36+1E80B 1EE37+1E809 1EE39+1E803 1EE3B+1E801 1EE42+1E816
   1EE47+1E81A 1EE49+1E7FF 1EE4B-1EE4D/2+1E807 1EE4E+1E81B 1EE4F+1E816
   1EE51+1E81C 1EE52+1E810 1EE54+1E820 1EE57+1E829 1EE59+1E823 1EE5B+1E821
   1EE5D+1E7A3 1EE5F+1E7F0 1EE61+1E839 1EE62+1E836 1EE64+1E81D 1EE67+1E83A
   1EE68+1E831 1EE69+1E81F 1EE6A-1EE6C/2+1E827 1EE6D+1E827 1EE6E+1E83B
   1EE6F+1E836 1EE70+1E82F 1EE71+1E83C 1EE72+1E830 1EE74+1E840 1EE75-1EE76+1E84B
   1EE77+1E849 1EE79+1E843 1EE7A+1E842 1EE7B+1E841 1EE7C+1E80E 1EE7E+1E7DD
   1EE80-1EE81+1E859 1EE82+1E856 1EE83+1E854 1EE84-1EE85+1E83D 1EE86+1E854
   1EE87+1E85A 1EE88+1E851 1EE89+1E83F 1EE8B-1EE8D+1E847 1EE8E+1E85B 1EE8F+1E856
   1EE90+1E84F 1EE91+1E85C 1EE92+1E850 1EE93+1E862 1EE94+1E860 1EE95-1EE96+1E86B
   1EE97+1E869 1EE98+1E868 1EE99+1E863 1EE9A+1E862 1EE9B+1E861 1EEA1+1E879
   1EEA2+1E876 1EEA3+1E874 1EEA5+1E85D 1EEA6+1E874 1EEA7+1E87A 1EEA8+1E871
   1EEA9+1E85F 1EEAB-1EEAD+1E867 1EEAE+1E87B 1EEAF+1E876 1EEB0+1E86F 1EEB1+1E87C
   1EEB2+1E870 1EEB3+1E882 1EEB4+1E880 1EEB5-1EEB6+1E88B 1EEB7+1E889 1EEB8+1E888
   1EEB9+1E883 1EEBA+1E882 1EEBB+1E881 1F12B+1F0C8 1F12C+1F0BA 1F130-1F149+1F0CF
   1F202+1C14D 1F210+18FC5 1F211+196BA 1F212+19E46 1F213+1C14C 1F214+1A388
   1F215+198FB 1F216+16833 1F217+198EE 1F218+1A374 1F219+18BF9 1F21A+180F9
   1F21B+18C82 1F21C+19FCF 1F21D+19291 1F21E+1A091 1F21F+18C6F 1F220+1A003
   1F221+174DF 1F222+17D03 1F223+1657A 1F224+19934 1F225+19DEC 1F226+18312
   1F227+18F92 1F228+18ED3 1F229+1A429 1F22A+1A421 1F22B+161E1 1F22C+19446
   1F22D+1A400 1F22E+19E3B 1F22F+18F28 1F230+164C0 1F231+18FDE 1F232+178B1
   1F233+177B9 1F234+19E2C 1F235+183B5 1F236+18B2D 1F237+18B2F 1F238+17D05
   1F239+19FC7 1F23A+19C84 1F23B+160EE 1F250+192B9 1F251+19E62
   1FBF0-1FBF9+1FBC0"

/-- Characters mapped to several. -/
def mappedApart : String :=
  "A8=20.308 AF=20.304 B4=20.301 B8=20.327 BC=31.2044.34 BD=31.2044.32
   BE=33.2044.34 130=69.307 132=69.6A 133=69.6A 13F=6C.B7 140=6C.B7 149=2BC.6E
   1C4=64.17E 1C5=64.17E 1C6=64.17E 1C7=6C.6A 1C8=6C.6A 1C9=6C.6A 1CA=6E.6A
   1CB=6E.6A 1CC=6E.6A 1F1=64.7A 1F2=64.7A 1F3=64.7A 2D8=20.306 2D9=20.307
   2DA=20.30A 2DB=20.328 2DC=20.303 2DD=20.30B 37A=20.3B9 384=20.301
   385=20.308.301 587=565.582 675=627.674 676=648.674 677=6C7.674 678=64A.674
   E33=E4D.E32 EB3=ECD.EB2 EDC=EAB.E99 EDD=EAB.EA1 F77=FB2.F71.F80
   F79=FB3.F71.F80 1E9A=61.2BE 1F80=1F00.3B9 1F81=1F01.3B9 1F82=1F02.3B9
   1F83=1F03.3B9 1F84=1F04.3B9 1F85=1F05.3B9 1F86=1F06.3B9 1F87=1F07.3B9
   1F88=1F00.3B9 1F89=1F01.3B9 1F8A=1F02.3B9 1F8B=1F03.3B9 1F8C=1F04.3B9
   1F8D=1F05.3B9 1F8E=1F06.3B9 1F8F=1F07.3B9 1F90=1F20.3B9 1F91=1F21.3B9
   1F92=1F22.3B9 1F93=1F23.3B9 1F94=1F24.3B9 1F95=1F25.3B9 1F96=1F26.3B9
   1F97=1F27.3B9 1F98=1F20.3B9 1F99=1F21.3B9 1F9A=1F22.3B9 1F9B=1F23.3B9
   1F9C=1F24.3B9 1F9D=1F25.3B9 1F9E=1F26.3B9 1F9F=1F27.3B9 1FA0=1F60.3B9
   1FA1=1F61.3B9 1FA2=1F62.3B9 1FA3=1F63.3B9 1FA4=1F64.3B9 1FA5=1F65.3B9
   1FA6=1F66.3B9 1FA7=1F67.3B9 1FA8=1F60.3B9 1FA9=1F61.3B9 1FAA=1F62.3B9
   1FAB=1F63.3B9 1FAC=1F64.3B9 1FAD=1F65.3B9 1FAE=1F66.3B9 1FAF=1F67.3B9
   1FB2=1F70.3B9 1FB3=3B1.3B9 1FB4=3AC.3B9 1FB7=1FB6.3B9 1FBC=3B1.3B9
   1FBD=20.313 1FBF=20.313 1FC0=20.342 1FC1=20.308.342 1FC2=1F74.3B9
   1FC3=3B7.3B9 1FC4=3AE.3B9 1FC7=1FC6.3B9 1FCC=3B7.3B9 1FCD=20.313.300
   1FCE=20.313.301 1FCF=20.313.342 1FDD=20.314.300 1FDE=20.314.301
   1FDF=20.314.342 1FED=20.308.300 1FEE=20.308.301 1FF2=1F7C.3B9 1FF3=3C9.3B9
   1FF4=3CE.3B9 1FF7=1FF6.3B9 1FFC=3C9.3B9 1FFD=20.301 1FFE=20.314 2017=20.333
   2033=2032.2032 2034=2032.2032.2032 2036=2035.2035 2037=2035.2035.2035
   203C=21.21 203E=20.305 2047=3F.3F 2048=3F.21 2049=21.3F
   2057=2032.2032.2032.2032 20A8=72.73 2100=61.2F.63 2101=61.2F.73 2103=B0.63
   2105=63.2F.6F 2106=63.2F.75 2109=B0.66 2116=6E.6F 2120=73.6D 2121=74.65.6C
   2122=74.6D 213B=66.61.78 2150=31.2044.37 2151=31.2044.39 2152=31.2044.31.30
   2153=31.2044.33 2154=32.2044.33 2155=31.2044.35 2156=32.2044.35
   2157=33.2044.35 2158=34.2044.35 2159=31.2044.36 215A=35.2044.36
   215B=31.2044.38 215C=33.2044.38 215D=35.2044.38 215E=37.2044.38 215F=31.2044
   2161=69.69 2162=69.69.69 2163=69.76 2165=76.69 2166=76.69.69 2167=76.69.69.69
   2168=69.78 216A=78.69 216B=78.69.69 2171=69.69 2172=69.69.69 2173=69.76
   2175=76.69 2176=76.69.69 2177=76.69.69.69 2178=69.78 217A=78.69 217B=78.69.69
   2189=30.2044.33 222C=222B.222B 222D=222B.222B.222B 222F=222E.222E
   2230=222E.222E.222E 2469=31.30 246A=31.31 246B=31.32 246C=31.33 246D=31.34
   246E=31.35 246F=31.36 2470=31.37 2471=31.38 2472=31.39 2473=32.30
   2474=28.31.29 2475=28.32.29 2476=28.33.29 2477=28.34.29 2478=28.35.29
   2479=28.36.29 247A=28.37.29 247B=28.38.29 247C=28.39.29 247D=28.31.30.29
   247E=28.31.31.29 247F=28.31.32.29 2480=28.31.33.29 2481=28.31.34.29
   2482=28.31.35.29 2483=28.31.36.29 2484=28.31.37.29 2485=28.31.38.29
   2486=28.31.39.29 2487=28.32.30.29 249C=28.61.29 249D=28.62.29 249E=28.63.29
   249F=28.64.29 24A0=28.65.29 24A1=28.66.29 24A2=28.67.29 24A3=28.68.29
   24A4=28.69.29 24A5=28.6A.29 24A6=28.6B.29 24A7=28.6C.29 24A8=28.6D.29
   24A9=28.6E.29 24AA=28.6F.29 24AB=28.70.29 24AC=28.71.29 24AD=28.72.29
   24AE=28.73.29 24AF=28.74.29 24B0=28.75.29 24B1=28.76.29 24B2=28.77.29
   24B3=28.78.29 24B4=28.79.29 24B5=28.7A.29 2A0C=222B.222B.222B.222B
   2A74=3A.3A.3D 2A75=3D.3D 2A76=3D.3D.3D 309B=20.3099 309C=20.309A
   309F=3088.308A 30FF=30B3.30C8 3200=28.1100.29 3201=28.1102.29 3202=28.1103.29
   3203=28.1105.29 3204=28.1106.29 3205=28.1107.29 3206=28.1109.29
   3207=28.110B.29 3208=28.110C.29 3209=28.110E.29 320A=28.110F.29
   320B=28.1110.29 320C=28.1111.29 320D=28.1112.29 320E=28.AC00.29
   320F=28.B098.29 3210=28.B2E4.29 3211=28.B77C.29 3212=28.B9C8.29
   3213=28.BC14.29 3214=28.C0AC.29 3215=28.C544.29 3216=28.C790.29
   3217=28.CC28.29 3218=28.CE74.29 3219=28.D0C0.29 321A=28.D30C.29
   321B=28.D558.29 321C=28.C8FC.29 321D=28.C624.C804.29 321E=28.C624.D6C4.29
   3220=28.4E00.29 3221=28.4E8C.29 3222=28.4E09.29 3223=28.56DB.29
   3224=28.4E94.29 3225=28.516D.29 3226=28.4E03.29 3227=28.516B.29
   3228=28.4E5D.29 3229=28.5341.29 322A=28.6708.29 322B=28.706B.29
   322C=28.6C34.29 322D=28.6728.29 322E=28.91D1.29 322F=28.571F.29
   3230=28.65E5.29 3231=28.682A.29 3232=28.6709.29 3233=28.793E.29
   3234=28.540D.29 3235=28.7279.29 3236=28.8CA1.29 3237=28.795D.29
   3238=28.52B4.29 3239=28.4EE3.29 323A=28.547C.29 323B=28.5B66.29
   323C=28.76E3.29 323D=28.4F01.29 323E=28.8CC7.29 323F=28.5354.29
   3240=28.796D.29 3241=28.4F11.29 3242=28.81EA.29 3243=28.81F3.29 3250=70.74.65
   3251=32.31 3252=32.32 3253=32.33 3254=32.34 3255=32.35 3256=32.36 3257=32.37
   3258=32.38 3259=32.39 325A=33.30 325B=33.31 325C=33.32 325D=33.33 325E=33.34
   325F=33.35 327C=CC38.ACE0 327D=C8FC.C758 32B1=33.36 32B2=33.37 32B3=33.38
   32B4=33.39 32B5=34.30 32B6=34.31 32B7=34.32 32B8=34.33 32B9=34.34 32BA=34.35
   32BB=34.36 32BC=34.37 32BD=34.38 32BE=34.39 32BF=35.30 32C0=31.6708
   32C1=32.6708 32C2=33.6708 32C3=34.6708 32C4=35.6708 32C5=36.6708 32C6=37.6708
   32C7=38.6708 32C8=39.6708 32C9=31.30.6708 32CA=31.31.6708 32CB=31.32.6708
   32CC=68.67 32CD=65.72.67 32CE=65.76 32CF=6C.74.64 32FF=4EE4.548C
   3300=30A2.30D1.30FC.30C8 3301=30A2.30EB.30D5.30A1 3302=30A2.30F3.30DA.30A2
   3303=30A2.30FC.30EB 3304=30A4.30CB.30F3.30B0 3305=30A4.30F3.30C1
   3306=30A6.30A9.30F3 3307=30A8.30B9.30AF.30FC.30C9 3308=30A8.30FC.30AB.30FC
   3309=30AA.30F3.30B9 330A=30AA.30FC.30E0 330B=30AB.30A4.30EA
   330C=30AB.30E9.30C3.30C8 330D=30AB.30ED.30EA.30FC 330E=30AC.30ED.30F3
   330F=30AC.30F3.30DE 3310=30AE.30AC 3311=30AE.30CB.30FC
   3312=30AD.30E5.30EA.30FC 3313=30AE.30EB.30C0.30FC 3314=30AD.30ED
   3315=30AD.30ED.30B0.30E9.30E0 3316=30AD.30ED.30E1.30FC.30C8.30EB
   3317=30AD.30ED.30EF.30C3.30C8 3318=30B0.30E9.30E0
   3319=30B0.30E9.30E0.30C8.30F3 331A=30AF.30EB.30BC.30A4.30ED
   331B=30AF.30ED.30FC.30CD 331C=30B1.30FC.30B9 331D=30B3.30EB.30CA
   331E=30B3.30FC.30DD 331F=30B5.30A4.30AF.30EB 3320=30B5.30F3.30C1.30FC.30E0
   3321=30B7.30EA.30F3.30B0 3322=30BB.30F3.30C1 3323=30BB.30F3.30C8
   3324=30C0.30FC.30B9 3325=30C7.30B7 3326=30C9.30EB 3327=30C8.30F3
   3328=30CA.30CE 3329=30CE.30C3.30C8 332A=30CF.30A4.30C4
   332B=30D1.30FC.30BB.30F3.30C8 332C=30D1.30FC.30C4 332D=30D0.30FC.30EC.30EB
   332E=30D4.30A2.30B9.30C8.30EB 332F=30D4.30AF.30EB 3330=30D4.30B3
   3331=30D3.30EB 3332=30D5.30A1.30E9.30C3.30C9 3333=30D5.30A3.30FC.30C8
   3334=30D6.30C3.30B7.30A7.30EB 3335=30D5.30E9.30F3
   3336=30D8.30AF.30BF.30FC.30EB 3337=30DA.30BD 3338=30DA.30CB.30D2
   3339=30D8.30EB.30C4 333A=30DA.30F3.30B9 333B=30DA.30FC.30B8
   333C=30D9.30FC.30BF 333D=30DD.30A4.30F3.30C8 333E=30DC.30EB.30C8
   333F=30DB.30F3 3340=30DD.30F3.30C9 3341=30DB.30FC.30EB 3342=30DB.30FC.30F3
   3343=30DE.30A4.30AF.30ED 3344=30DE.30A4.30EB 3345=30DE.30C3.30CF
   3346=30DE.30EB.30AF 3347=30DE.30F3.30B7.30E7.30F3 3348=30DF.30AF.30ED.30F3
   3349=30DF.30EA 334A=30DF.30EA.30D0.30FC.30EB 334B=30E1.30AC
   334C=30E1.30AC.30C8.30F3 334D=30E1.30FC.30C8.30EB 334E=30E4.30FC.30C9
   334F=30E4.30FC.30EB 3350=30E6.30A2.30F3 3351=30EA.30C3.30C8.30EB
   3352=30EA.30E9 3353=30EB.30D4.30FC 3354=30EB.30FC.30D6.30EB 3355=30EC.30E0
   3356=30EC.30F3.30C8.30B2.30F3 3357=30EF.30C3.30C8 3358=30.70B9 3359=31.70B9
   335A=32.70B9 335B=33.70B9 335C=34.70B9 335D=35.70B9 335E=36.70B9 335F=37.70B9
   3360=38.70B9 3361=39.70B9 3362=31.30.70B9 3363=31.31.70B9 3364=31.32.70B9
   3365=31.33.70B9 3366=31.34.70B9 3367=31.35.70B9 3368=31.36.70B9
   3369=31.37.70B9 336A=31.38.70B9 336B=31.39.70B9 336C=32.30.70B9
   336D=32.31.70B9 336E=32.32.70B9 336F=32.33.70B9 3370=32.34.70B9 3371=68.70.61
   3372=64.61 3373=61.75 3374=62.61.72 3375=6F.76 3376=70.63 3377=64.6D
   3378=64.6D.32 3379=64.6D.33 337A=69.75 337B=5E73.6210 337C=662D.548C
   337D=5927.6B63 337E=660E.6CBB 337F=682A.5F0F.4F1A.793E 3380=70.61 3381=6E.61
   3382=3BC.61 3383=6D.61 3384=6B.61 3385=6B.62 3386=6D.62 3387=67.62
   3388=63.61.6C 3389=6B.63.61.6C 338A=70.66 338B=6E.66 338C=3BC.66 338D=3BC.67
   338E=6D.67 338F=6B.67 3390=68.7A 3391=6B.68.7A 3392=6D.68.7A 3393=67.68.7A
   3394=74.68.7A 3395=3BC.6C 3396=6D.6C 3397=64.6C 3398=6B.6C 3399=66.6D
   339A=6E.6D 339B=3BC.6D 339C=6D.6D 339D=63.6D 339E=6B.6D 339F=6D.6D.32
   33A0=63.6D.32 33A1=6D.32 33A2=6B.6D.32 33A3=6D.6D.33 33A4=63.6D.33 33A5=6D.33
   33A6=6B.6D.33 33A7=6D.2215.73 33A8=6D.2215.73.32 33A9=70.61 33AA=6B.70.61
   33AB=6D.70.61 33AC=67.70.61 33AD=72.61.64 33AE=72.61.64.2215.73
   33AF=72.61.64.2215.73.32 33B0=70.73 33B1=6E.73 33B2=3BC.73 33B3=6D.73
   33B4=70.76 33B5=6E.76 33B6=3BC.76 33B7=6D.76 33B8=6B.76 33B9=6D.76 33BA=70.77
   33BB=6E.77 33BC=3BC.77 33BD=6D.77 33BE=6B.77 33BF=6D.77 33C0=6B.3C9
   33C1=6D.3C9 33C3=62.71 33C4=63.63 33C5=63.64 33C6=63.2215.6B.67 33C8=64.62
   33C9=67.79 33CA=68.61 33CB=68.70 33CC=69.6E 33CD=6B.6B 33CE=6B.6D 33CF=6B.74
   33D0=6C.6D 33D1=6C.6E 33D2=6C.6F.67 33D3=6C.78 33D4=6D.62 33D5=6D.69.6C
   33D6=6D.6F.6C 33D7=70.68 33D9=70.70.6D 33DA=70.72 33DB=73.72 33DC=73.76
   33DD=77.62 33DE=76.2215.6D 33DF=61.2215.6D 33E0=31.65E5 33E1=32.65E5
   33E2=33.65E5 33E3=34.65E5 33E4=35.65E5 33E5=36.65E5 33E6=37.65E5 33E7=38.65E5
   33E8=39.65E5 33E9=31.30.65E5 33EA=31.31.65E5 33EB=31.32.65E5 33EC=31.33.65E5
   33ED=31.34.65E5 33EE=31.35.65E5 33EF=31.36.65E5 33F0=31.37.65E5
   33F1=31.38.65E5 33F2=31.39.65E5 33F3=32.30.65E5 33F4=32.31.65E5
   33F5=32.32.65E5 33F6=32.33.65E5 33F7=32.34.65E5 33F8=32.35.65E5
   33F9=32.36.65E5 33FA=32.37.65E5 33FB=32.38.65E5 33FC=32.39.65E5
   33FD=33.30.65E5 33FE=33.31.65E5 33FF=67.61.6C FB00=66.66 FB01=66.69
   FB02=66.6C FB03=66.66.69 FB04=66.66.6C FB05=73.74 FB06=73.74 FB13=574.576
   FB14=574.565 FB15=574.56B FB16=57E.576 FB17=574.56D FB4F=5D0.5DC FBDD=6C7.674
   FBEA=626.627 FBEB=626.627 FBEC=626.6D5 FBED=626.6D5 FBEE=626.648 FBEF=626.648
   FBF0=626.6C7 FBF1=626.6C7 FBF2=626.6C6 FBF3=626.6C6 FBF4=626.6C8 FBF5=626.6C8
   FBF6=626.6D0 FBF7=626.6D0 FBF8=626.6D0 FBF9=626.649 FBFA=626.649 FBFB=626.649
   FC00=626.62C FC01=626.62D FC02=626.645 FC03=626.649 FC04=626.64A FC05=628.62C
   FC06=628.62D FC07=628.62E FC08=628.645 FC09=628.649 FC0A=628.64A FC0B=62A.62C
   FC0C=62A.62D FC0D=62A.62E FC0E=62A.645 FC0F=62A.649 FC10=62A.64A FC11=62B.62C
   FC12=62B.645 FC13=62B.649 FC14=62B.64A FC15=62C.62D FC16=62C.645 FC17=62D.62C
   FC18=62D.645 FC19=62E.62C FC1A=62E.62D FC1B=62E.645 FC1C=633.62C FC1D=633.62D
   FC1E=633.62E FC1F=633.645 FC20=635.62D FC21=635.645 FC22=636.62C FC23=636.62D
   FC24=636.62E FC25=636.645 FC26=637.62D FC27=637.645 FC28=638.645 FC29=639.62C
   FC2A=639.645 FC2B=63A.62C FC2C=63A.645 FC2D=641.62C FC2E=641.62D FC2F=641.62E
   FC30=641.645 FC31=641.649 FC32=641.64A FC33=642.62D FC34=642.645 FC35=642.649
   FC36=642.64A FC37=643.627 FC38=643.62C FC39=643.62D FC3A=643.62E FC3B=643.644
   FC3C=643.645 FC3D=643.649 FC3E=643.64A FC3F=644.62C FC40=644.62D FC41=644.62E
   FC42=644.645 FC43=644.649 FC44=644.64A FC45=645.62C FC46=645.62D FC47=645.62E
   FC48=645.645 FC49=645.649 FC4A=645.64A FC4B=646.62C FC4C=646.62D FC4D=646.62E
   FC4E=646.645 FC4F=646.649 FC50=646.64A FC51=647.62C FC52=647.645 FC53=647.649
   FC54=647.64A FC55=64A.62C FC56=64A.62D FC57=64A.62E FC58=64A.645 FC59=64A.649
   FC5A=64A.64A FC5B=630.670 FC5C=631.670 FC5D=649.670 FC5E=20.64C.651
   FC5F=20.64D.651 FC60=20.64E.651 FC61=20.64F.651 FC62=20.650.651
   FC63=20.651.670 FC64=626.631 FC65=626.632 FC66=626.645 FC67=626.646
   FC68=626.649 FC69=626.64A FC6A=628.631 FC6B=628.632 FC6C=628.645 FC6D=628.646
   FC6E=628.649 FC6F=628.64A FC70=62A.631 FC71=62A.632 FC72=62A.645 FC73=62A.646
   FC74=62A.649 FC75=62A.64A FC76=62B.631 FC77=62B.632 FC78=62B.645 FC79=62B.646
   FC7A=62B.649 FC7B=62B.64A FC7C=641.649 FC7D=641.64A FC7E=642.649 FC7F=642.64A
   FC80=643.627 FC81=643.644 FC82=643.645 FC83=643.649 FC84=643.64A FC85=644.645
   FC86=644.649 FC87=644.64A FC88=645.627 FC89=645.645 FC8A=646.631 FC8B=646.632
   FC8C=646.645 FC8D=646.646 FC8E=646.649 FC8F=646.64A FC90=649.670 FC91=64A.631
   FC92=64A.632 FC93=64A.645 FC94=64A.646 FC95=64A.649 FC96=64A.64A FC97=626.62C
   FC98=626.62D FC99=626.62E FC9A=626.645 FC9B=626.647 FC9C=628.62C FC9D=628.62D
   FC9E=628.62E FC9F=628.645 FCA0=628.647 FCA1=62A.62C FCA2=62A.62D FCA3=62A.62E
   FCA4=62A.645 FCA5=62A.647 FCA6=62B.645 FCA7=62C.62D FCA8=62C.645 FCA9=62D.62C
   FCAA=62D.645 FCAB=62E.62C FCAC=62E.645 FCAD=633.62C FCAE=633.62D FCAF=633.62E
   FCB0=633.645 FCB1=635.62D FCB2=635.62E FCB3=635.645 FCB4=636.62C FCB5=636.62D
   FCB6=636.62E FCB7=636.645 FCB8=637.62D FCB9=638.645 FCBA=639.62C FCBB=639.645
   FCBC=63A.62C FCBD=63A.645 FCBE=641.62C FCBF=641.62D FCC0=641.62E FCC1=641.645
   FCC2=642.62D FCC3=642.645 FCC4=643.62C FCC5=643.62D FCC6=643.62E FCC7=643.644
   FCC8=643.645 FCC9=644.62C FCCA=644.62D FCCB=644.62E FCCC=644.645 FCCD=644.647
   FCCE=645.62C FCCF=645.62D FCD0=645.62E FCD1=645.645 FCD2=646.62C FCD3=646.62D
   FCD4=646.62E FCD5=646.645 FCD6=646.647 FCD7=647.62C FCD8=647.645 FCD9=647.670
   FCDA=64A.62C FCDB=64A.62D FCDC=64A.62E FCDD=64A.645 FCDE=64A.647 FCDF=626.645
   FCE0=626.647 FCE1=628.645 FCE2=628.647 FCE3=62A.645 FCE4=62A.647 FCE5=62B.645
   FCE6=62B.647 FCE7=633.645 FCE8=633.647 FCE9=634.645 FCEA=634.647 FCEB=643.644
   FCEC=643.645 FCED=644.645 FCEE=646.645 FCEF=646.647 FCF0=64A.645 FCF1=64A.647
   FCF2=640.64E.651 FCF3=640.64F.651 FCF4=640.650.651 FCF5=637.649 FCF6=637.64A
   FCF7=639.649 FCF8=639.64A FCF9=63A.649 FCFA=63A.64A FCFB=633.649 FCFC=633.64A
   FCFD=634.649 FCFE=634.64A FCFF=62D.649 FD00=62D.64A FD01=62C.649 FD02=62C.64A
   FD03=62E.649 FD04=62E.64A FD05=635.649 FD06=635.64A FD07=636.649 FD08=636.64A
   FD09=634.62C FD0A=634.62D FD0B=634.62E FD0C=634.645 FD0D=634.631 FD0E=633.631
   FD0F=635.631 FD10=636.631 FD11=637.649 FD12=637.64A FD13=639.649 FD14=639.64A
   FD15=63A.649 FD16=63A.64A FD17=633.649 FD18=633.64A FD19=634.649 FD1A=634.64A
   FD1B=62D.649 FD1C=62D.64A FD1D=62C.649 FD1E=62C.64A FD1F=62E.649 FD20=62E.64A
   FD21=635.649 FD22=635.64A FD23=636.649 FD24=636.64A FD25=634.62C FD26=634.62D
   FD27=634.62E FD28=634.645 FD29=634.631 FD2A=633.631 FD2B=635.631 FD2C=636.631
   FD2D=634.62C FD2E=634.62D FD2F=634.62E FD30=634.645 FD31=633.647 FD32=634.647
   FD33=637.645 FD34=633.62C FD35=633.62D FD36=633.62E FD37=634.62C FD38=634.62D
   FD39=634.62E FD3A=637.645 FD3B=638.645 FD3C=627.64B FD3D=627.64B
   FD50=62A.62C.645 FD51=62A.62D.62C FD52=62A.62D.62C FD53=62A.62D.645
   FD54=62A.62E.645 FD55=62A.645.62C FD56=62A.645.62D FD57=62A.645.62E
   FD58=62C.645.62D FD59=62C.645.62D FD5A=62D.645.64A FD5B=62D.645.649
   FD5C=633.62D.62C FD5D=633.62C.62D FD5E=633.62C.649 FD5F=633.645.62D
   FD60=633.645.62D FD61=633.645.62C FD62=633.645.645 FD63=633.645.645
   FD64=635.62D.62D FD65=635.62D.62D FD66=635.645.645 FD67=634.62D.645
   FD68=634.62D.645 FD69=634.62C.64A FD6A=634.645.62E FD6B=634.645.62E
   FD6C=634.645.645 FD6D=634.645.645 FD6E=636.62D.649 FD6F=636.62E.645
   FD70=636.62E.645 FD71=637.645.62D FD72=637.645.62D FD73=637.645.645
   FD74=637.645.64A FD75=639.62C.645 FD76=639.645.645 FD77=639.645.645
   FD78=639.645.649 FD79=63A.645.645 FD7A=63A.645.64A FD7B=63A.645.649
   FD7C=641.62E.645 FD7D=641.62E.645 FD7E=642.645.62D FD7F=642.645.645
   FD80=644.62D.645 FD81=644.62D.64A FD82=644.62D.649 FD83=644.62C.62C
   FD84=644.62C.62C FD85=644.62E.645 FD86=644.62E.645 FD87=644.645.62D
   FD88=644.645.62D FD89=645.62D.62C FD8A=645.62D.645 FD8B=645.62D.64A
   FD8C=645.62C.62D FD8D=645.62C.645 FD8E=645.62E.62C FD8F=645.62E.645
   FD92=645.62C.62E FD93=647.645.62C FD94=647.645.645 FD95=646.62D.645
   FD96=646.62D.649 FD97=646.62C.645 FD98=646.62C.645 FD99=646.62C.649
   FD9A=646.645.64A FD9B=646.645.649 FD9C=64A.645.645 FD9D=64A.645.645
   FD9E=628.62E.64A FD9F=62A.62C.64A FDA0=62A.62C.649 FDA1=62A.62E.64A
   FDA2=62A.62E.649 FDA3=62A.645.64A FDA4=62A.645.649 FDA5=62C.645.64A
   FDA6=62C.62D.649 FDA7=62C.645.649 FDA8=633.62E.649 FDA9=635.62D.64A
   FDAA=634.62D.64A FDAB=636.62D.64A FDAC=644.62C.64A FDAD=644.645.64A
   FDAE=64A.62D.64A FDAF=64A.62C.64A FDB0=64A.645.64A FDB1=645.645.64A
   FDB2=642.645.64A FDB3=646.62D.64A FDB4=642.645.62D FDB5=644.62D.645
   FDB6=639.645.64A FDB7=643.645.64A FDB8=646.62C.62D FDB9=645.62E.64A
   FDBA=644.62C.645 FDBB=643.645.645 FDBC=644.62C.645 FDBD=646.62C.62D
   FDBE=62C.62D.64A FDBF=62D.62C.64A FDC0=645.62C.64A FDC1=641.645.64A
   FDC2=628.62D.64A FDC3=643.645.645 FDC4=639.62C.645 FDC5=635.645.645
   FDC6=633.62E.64A FDC7=646.62C.64A FDF0=635.644.6D2 FDF1=642.644.6D2
   FDF2=627.644.644.647 FDF3=627.643.628.631 FDF4=645.62D.645.62F
   FDF5=635.644.639.645 FDF6=631.633.648.644 FDF7=639.644.64A.647
   FDF8=648.633.644.645 FDF9=635.644.649
   FDFA=635.644.649.20.627.644.644.647.20.639.644.64A.647.20.648.633.644.645
   FDFB=62C.644.20.62C.644.627.644.647 FDFC=631.6CC.627.644 FE49=20.305
   FE4A=20.305 FE4B=20.305 FE4C=20.305 FE70=20.64B FE71=640.64B FE72=20.64C
   FE74=20.64D FE76=20.64E FE77=640.64E FE78=20.64F FE79=640.64F FE7A=20.650
   FE7B=640.650 FE7C=20.651 FE7D=640.651 FE7E=20.652 FE7F=640.652 FEF5=644.622
   FEF6=644.622 FEF7=644.623 FEF8=644.623 FEF9=644.625 FEFA=644.625 FEFB=644.627
   FEFC=644.627 FFE3=20.304 1F101=30.2C 1F102=31.2C 1F103=32.2C 1F104=33.2C
   1F105=34.2C 1F106=35.2C 1F107=36.2C 1F108=37.2C 1F109=38.2C 1F10A=39.2C
   1F110=28.61.29 1F111=28.62.29 1F112=28.63.29 1F113=28.64.29 1F114=28.65.29
   1F115=28.66.29 1F116=28.67.29 1F117=28.68.29 1F118=28.69.29 1F119=28.6A.29
   1F11A=28.6B.29 1F11B=28.6C.29 1F11C=28.6D.29 1F11D=28.6E.29 1F11E=28.6F.29
   1F11F=28.70.29 1F120=28.71.29 1F121=28.72.29 1F122=28.73.29 1F123=28.74.29
   1F124=28.75.29 1F125=28.76.29 1F126=28.77.29 1F127=28.78.29 1F128=28.79.29
   1F129=28.7A.29 1F12A=3014.73.3015 1F12D=63.64 1F12E=77.7A 1F14A=68.76
   1F14B=6D.76 1F14C=73.64 1F14D=73.73 1F14E=70.70.76 1F14F=77.63 1F16A=6D.63
   1F16B=6D.64 1F16C=6D.72 1F190=64.6A 1F200=307B.304B 1F201=30B3.30B3
   1F240=3014.672C.3015 1F241=3014.4E09.3015 1F242=3014.4E8C.3015
   1F243=3014.5B89.3015 1F244=3014.70B9.3015 1F245=3014.6253.3015
   1F246=3014.76D7.3015 1F247=3014.52DD.3015 1F248=3014.6557.3015"

/-- Characters that are dropped. -/
def droppedInHosts : CodeSet := .ofTable
  "AD 34F 115F-1160 17B4-17B5 180B-180F 200B 2060-2064 206A-206F 3164 FE00-FE0F
   FEFF FFA0 1BCA0-1BCA3 1D173-1D17A E0100-E01EF"

def refusedInHosts : CodeSet := .ofTable
  "80-9F 378-379 380-383 38B 38D 3A2 530 557-558 58B-58C 590 5C8-5CF 5EB-5EE
   5F5-605 61C 6DD 70E-70F 74B-74C 7B2-7BF 7FB-7FC 82E-82F 83F 85C-85D 85F
   86B-86F 890-896 8E2 984 98D-98E 991-992 9A9 9B1 9B3-9B5 9BA-9BB 9C5-9C6
   9C9-9CA 9CF-9D6 9D8-9DB 9DE 9E4-9E5 9FF-A00 A04 A0B-A0E A11-A12 A29 A31 A34
   A37 A3A-A3B A3D A43-A46 A49-A4A A4E-A50 A52-A58 A5D A5F-A65 A77-A80 A84 A8E
   A92 AA9 AB1 AB4 ABA-ABB AC6 ACA ACE-ACF AD1-ADF AE4-AE5 AF2-AF8 B00 B04
   B0D-B0E B11-B12 B29 B31 B34 B3A-B3B B45-B46 B49-B4A B4E-B54 B58-B5B B5E
   B64-B65 B78-B81 B84 B8B-B8D B91 B96-B98 B9B B9D BA0-BA2 BA5-BA7 BAB-BAD
   BBA-BBD BC3-BC5 BC9 BCE-BCF BD1-BD6 BD8-BE5 BFB-BFF C0D C11 C29 C3A-C3B C45
   C49 C4E-C54 C57 C5B C5E-C5F C64-C65 C70-C76 C8D C91 CA9 CB4 CBA-CBB CC5 CC9
   CCE-CD4 CD7-CDB CDF CE4-CE5 CF0 CF4-CFF D0D D11 D45 D49 D50-D53 D64-D65 D80
   D84 D97-D99 DB2 DBC DBE-DBF DC7-DC9 DCB-DCE DD5 DD7 DE0-DE5 DF0-DF1 DF5-E00
   E3B-E3E E5C-E80 E83 E85 E8B EA4 EA6 EBE-EBF EC5 EC7 ECF EDA-EDB EE0-EFF F48
   F6D-F70 F98 FBD FCD FDB-FFF 10C6 10C8-10CC 10CE-10CF 1249 124E-124F 1257 1259
   125E-125F 1289 128E-128F 12B1 12B6-12B7 12BF 12C1 12C6-12C7 12D7 1311
   1316-1317 135B-135C 137D-137F 139A-139F 13F6-13F7 13FE-13FF 1680 169D-169F
   16F9-16FF 1716-171E 1737-173F 1754-175F 176D 1771 1774-177F 17DE-17DF
   17EA-17EF 17FA-17FF 181A-181F 1879-187F 18AB-18AF 18F6-18FF 191F 192C-192F
   193C-193F 1941-1943 196E-196F 1975-197F 19AC-19AF 19CA-19CF 19DB-19DD
   1A1C-1A1D 1A5F 1A7D-1A7E 1A8A-1A8F 1A9A-1A9F 1AAE-1AAF 1ADE-1ADF 1AEC-1AFF
   1B4D 1BF4-1BFB 1C38-1C3A 1C4A-1C4C 1C8B-1C8F 1CBB-1CBC 1CC8-1CCF 1CFB-1CFF
   1F16-1F17 1F1E-1F1F 1F46-1F47 1F4E-1F4F 1F58-1F5E/2 1F7E-1F7F 1FB5 1FC5
   1FD4-1FD5 1FDC 1FF0-1FF1 1FF5 1FFF 200E-200F 2024-2026 2028-202E 2065-2069
   2072-2073 208F 209D-209F 20C2-20CF 20F1-20FF 218C-218F 242A-243F 244B-245F
   2488-249B 2B74-2B75 2CF4-2CF8 2D26 2D28-2D2C 2D2E-2D2F 2D68-2D6E 2D71-2D7E
   2D97-2D9F 2DA7 2DAF 2DB7 2DBF 2DC7 2DCF 2DD7 2DDF 2E5E-2E7F 2E9A 2EF4-2EFF
   2FD6-2FFF 3040 3097-3098 3100-3104 3130 318F 31E6-31EF 321F 33C2 33C7 33D8
   A48D-A48F A4C7-A4CF A62C-A63F A6F8-A6FF A7DD-A7F0 A82D-A82F A83A-A83F
   A878-A87F A8C6-A8CD A8DA-A8DF A954-A95E A97D-A97F A9CE A9DA-A9DD A9FF
   AA37-AA3F AA4E-AA4F AA5A-AA5B AAC3-AADA AAF7-AB00 AB07-AB08 AB0F-AB10
   AB17-AB1F AB27 AB2F AB6C-AB6F ABEE-ABEF ABFA-ABFF D7A4-D7AF D7C7-D7CA
   D7FC-D7FF E000-F8FF FA6E-FA6F FADA-FAFF FB07-FB12 FB18-FB1C FB37 FB3D FB3F
   FB42 FB45 FDD0-FDEF FE12 FE19-FE1F FE30 FE52-FE53 FE67 FE6C-FE6F FE75
   FEFD-FEFE FF00 FFBF-FFC1 FFC8-FFC9 FFD0-FFD1 FFD8-FFD9 FFDD-FFDF FFE7
   FFEF-FFFF 1000C 10027 1003B 1003E 1004E-1004F 1005E-1007F 100FB-100FF
   10103-10106 10134-10136 1018F 1019D-1019F 101A1-101CF 101FE-1027F 1029D-1029F
   102D1-102DF 102FC-102FF 10324-1032C 1034B-1034F 1037B-1037F 1039E 103C4-103C7
   103D6-103FF 1049E-1049F 104AA-104AF 104D4-104D7 104FC-104FF 10528-1052F
   10564-1056E 1057B 1058B 10593 10596 105A2 105B2 105BA 105BD-105BF 105F4-105FF
   10737-1073F 10756-1075F 10768-1077F 10786 107B1 107BB-107FF 10806-10807 10809
   10836 10839-1083B 1083D-1083E 10856 1089F-108A6 108B0-108DF 108F3 108F6-108FA
   1091C-1091E 1093A-1093E 1095A-1097F 109B8-109BB 109D0-109D1 10A04 10A07-10A0B
   10A14 10A18 10A36-10A37 10A3B-10A3E 10A49-10A4F 10A59-10A5F 10AA0-10ABF
   10AE7-10AEA 10AF7-10AFF 10B36-10B38 10B56-10B57 10B73-10B77 10B92-10B98
   10B9D-10BA8 10BB0-10BFF 10C49-10C7F 10CB3-10CBF 10CF3-10CF9 10D28-10D2F
   10D3A-10D3F 10D66-10D68 10D86-10D8D 10D90-10E5F 10E7F 10EAA 10EAE-10EAF
   10EB2-10EC1 10EC8-10ECF 10ED9-10EF9 10F28-10F2F 10F5A-10F6F 10F8A-10FAF
   10FCC-10FDF 10FF7-10FFF 1104E-11051 11076-1107E 110BD 110C3-110CF 110E9-110EF
   110FA-110FF 11135 11148-1114F 11177-1117F 111E0 111F5-111FF 11212 11242-1127F
   11287 11289 1128E 1129E 112AA-112AF 112EB-112EF 112FA-112FF 11304 1130D-1130E
   11311-11312 11329 11331 11334 1133A 11345-11346 11349-1134A 1134E-1134F
   11351-11356 11358-1135C 11364-11365 1136D-1136F 11375-1137F 1138A 1138C-1138D
   1138F 113B6 113C1 113C3-113C4 113C6 113CB 113D6 113D9-113E0 113E3-113FF 1145C
   11462-1147F 114C8-114CF 114DA-1157F 115B6-115B7 115DE-115FF 11645-1164F
   1165A-1165F 1166D-1167F 116BA-116BF 116CA-116CF 116E4-116FF 1171B-1171C
   1172C-1172F 11747-117FF 1183C-1189F 118F3-118FE 11907-11908 1190A-1190B 11914
   11917 11936 11939-1193A 11947-1194F 1195A-1199F 119A8-119A9 119D8-119D9
   119E5-119FF 11A48-11A4F 11AA3-11AAF 11AF9-11AFF 11B0A-11B5F 11B68-11BBF
   11BE2-11BEF 11BFA-11BFF 11C09 11C37 11C46-11C4F 11C6D-11C6F 11C90-11C91 11CA8
   11CB7-11CFF 11D07 11D0A 11D37-11D39 11D3B 11D3E 11D48-11D4F 11D5A-11D5F 11D66
   11D69 11D8F 11D92 11D99-11D9F 11DAA-11DAF 11DDC-11DDF 11DEA-11EDF 11EF9-11EFF
   11F11 11F3B-11F3D 11F5B-11FAF 11FB1-11FBF 11FF2-11FFE 1239A-123FF 1246F
   12475-1247F 12544-12F8F 12FF3-12FFF 13430-1343F 13456-1345F 143FB-143FF
   14647-160FF 1613A-167FF 16A39-16A3F 16A5F 16A6A-16A6D 16ABF 16ACA-16ACF
   16AEE-16AEF 16AF6-16AFF 16B46-16B4F 16B5A 16B62 16B78-16B7C 16B90-16D3F
   16D7A-16E3F 16E9B-16E9F 16EB9-16EBA 16ED4-16EFF 16F4B-16F4E 16F88-16F8E
   16FA0-16FDF 16FE5-16FEF 16FF7-16FFF 18CD6-18CFE 18D1F-18D7F 18DF3-1AFEF 1AFF4
   1AFFC 1AFFF 1B123-1B131 1B133-1B14F 1B153-1B154 1B156-1B163 1B168-1B16F
   1B2FC-1BBFF 1BC6B-1BC6F 1BC7D-1BC7F 1BC89-1BC8F 1BC9A-1BC9B 1BCA4-1CBFF
   1CCFD-1CCFF 1CEB4-1CEB9 1CED1-1CEDF 1CEF1-1CEFF 1CF2E-1CF2F 1CF47-1CF4F
   1CFC4-1CFFF 1D0F6-1D0FF 1D127-1D128 1D1EB-1D1FF 1D246-1D2BF 1D2D4-1D2DF
   1D2F4-1D2FF 1D357-1D35F 1D379-1D3FF 1D455 1D49D 1D4A0-1D4A1 1D4A3-1D4A4
   1D4A7-1D4A8 1D4AD 1D4BA 1D4BC 1D4C4 1D506 1D50B-1D50C 1D515 1D51D 1D53A 1D53F
   1D545 1D547-1D549 1D551 1D6A6-1D6A7 1D7CC-1D7CD 1DA8C-1DA9A 1DAA0 1DAB0-1DEFF
   1DF1F-1DF24 1DF2B-1DFFF 1E007 1E019-1E01A 1E022 1E025 1E02B-1E02F 1E06E-1E08E
   1E090-1E0FF 1E12D-1E12F 1E13E-1E13F 1E14A-1E14D 1E150-1E28F 1E2AF-1E2BF
   1E2FA-1E2FE 1E300-1E4CF 1E4FA-1E5CF 1E5FB-1E5FE 1E600-1E6BF 1E6DF 1E6F6-1E6FD
   1E700-1E7DF 1E7E7 1E7EC 1E7EF 1E7FF 1E8C5-1E8C6 1E8D7-1E8FF 1E94C-1E94F
   1E95A-1E95D 1E960-1EC70 1ECB5-1ED00 1ED3E-1EDFF 1EE04 1EE20 1EE23 1EE25-1EE26
   1EE28 1EE33 1EE38 1EE3A 1EE3C-1EE41 1EE43-1EE46 1EE48-1EE4C/2 1EE50 1EE53
   1EE55-1EE56 1EE58-1EE60/2 1EE63 1EE65-1EE66 1EE6B 1EE73 1EE78 1EE7D 1EE7F
   1EE8A 1EE9C-1EEA0 1EEA4 1EEAA 1EEBC-1EEEF 1EEF2-1EFFF 1F02C-1F02F 1F094-1F09F
   1F0AF-1F0B0 1F0C0 1F0D0 1F0F6-1F100 1F1AE-1F1E5 1F203-1F20F 1F23C-1F23F
   1F249-1F24F 1F252-1F25F 1F266-1F2FF 1F6D9-1F6DB 1F6ED-1F6EF 1F6FD-1F6FF
   1F7DA-1F7DF 1F7EC-1F7EF 1F7F1-1F7FF 1F80C-1F80F 1F848-1F84F 1F85A-1F85F
   1F888-1F88F 1F8AE-1F8AF 1F8BC-1F8BF 1F8C2-1F8CF 1F8D9-1F8FF 1FA58-1FA5F
   1FA6E-1FA6F 1FA7D-1FA7F 1FA8B-1FA8D 1FAC7 1FAC9-1FACC 1FADD-1FADE 1FAEB-1FAEE
   1FAF9-1FAFF 1FB93 1FBFB-1FFFF 2A6E0-2A6FF 2B81E-2B81F 2CEAE-2CEAF 2EBE1-2EBEF
   2EE5E-2F7FF 2FA1E-2FFFF 3134B-3134F 3347A-E00FF E01F0-10FFFF"

/-- The ranges of one word of a table of distances, with the distance. -/
def distanceOfWord (word : List Char) : List (Nat × Nat × Nat) :=
  match pieces (· = '+') word with
  | [range, distance] =>
      (CodeSet.ofWord range).map fun r => (r.1, r.2, CodeSet.hexValue distance)
  | _ => []

def distancesUp : List (Nat × Nat × Nat) :=
  (CodeSet.tableWords mappedUp).flatMap distanceOfWord

def distancesDown : List (Nat × Nat × Nat) :=
  (CodeSet.tableWords mappedDown).flatMap distanceOfWord

/-- A character with those that one word of a table gives for it. -/
def expansionOfWord (word : List Char) : Option (Nat × List Nat) :=
  match pieces (· = '=') word with
  | [c, cs] =>
      some (CodeSet.hexValue c, (pieces (· = '.') cs).map CodeSet.hexValue)
  | _ => none

def hostExpansions : List (Nat × List Nat) :=
  (CodeSet.tableWords mappedApart).filterMap expansionOfWord

/-- What a character becomes in a host name, if it may stand there. -/
def mapInHost (c : Nat) : Option (List Nat) :=
  if refusedInHosts.contains c then none
  else if droppedInHosts.contains c then some []
  else
    let inside (r : Nat × Nat × Nat) := decide (r.1 ≤ c) && decide (c ≤ r.2.1)
    match distancesUp.find? inside, distancesDown.find? inside,
      List.lookup c hostExpansions with
    | some r, _, _ => some [c + r.2.2]
    | none, some r, _ => some [c - r.2.2]
    | none, none, some cs => some cs
    | none, none, none => some [c]

end RuleWatch.Unicode

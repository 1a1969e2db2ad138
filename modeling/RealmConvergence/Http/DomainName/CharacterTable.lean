/-!
# Table of the characters of names

The characters beyond ASCII that a name may have, after version 17 of the tables for international
names. A word gives a code point, or the first and the last one of a range, in hexadecimal digits.
After a slash stand the traits: a small letter for the direction, `D`, `L`, `R` or `T` for the way
of joining, `M` for a mark, and the combining class in decimal digits. What is not given is left to
right, joins nothing, is no mark and has class zero.

The small letters are `r` for right to left, `a` for Arabic letters, `n` for Arabic numbers, `e` for
European numbers, `s` for their separators, `t` for their terminators, `c` for common separators,
`b` for boundaries, `o` for other neutrals and `m` for marks without a width.
-/

set_option autoImplicit false

namespace RealmConvergence.Http.DomainName

/-- The characters of names with their traits. -/
def characterLines : List String := [
  "A1/o A2-A5/t A6-A7/o A9/o AB-AC/o AE/o B0-B1/t B6-B7/o BB/o BF/o D7/o DF-F6 F7/o F8-FF 101 103",
  "105 107 109 10B 10D 10F 111 113 115 117 119 11B 11D 11F 121 123 125 127 129 12B 12D 12F 131",
  "135 137-138 13A 13C 13E 142 144 146 148 14B 14D 14F 151 153 155 157 159 15B 15D 15F 161 163",
  "165 167 169 16B 16D 16F 171 173 175 177 17A 17C 17E 180 183 185 188 18C-18D 192 195 199-19B",
  "19E 1A1 1A3 1A5 1A8 1AA-1AB 1AD 1B0 1B4 1B6 1B9-1BB 1BD-1C3 1CE 1D0 1D2 1D4 1D6 1D8 1DA",
  "1DC-1DD 1DF 1E1 1E3 1E5 1E7 1E9 1EB 1ED 1EF-1F0 1F5 1F9 1FB 1FD 1FF 201 203 205 207 209 20B",
  "20D 20F 211 213 215 217 219 21B 21D 21F 221 223 225 227 229 22B 22D 22F 231 233-239 23C",
  "23F-240 242 247 249 24B 24D 24F-2AF 2B9-2BA/o 2BB-2C1 2C2-2CF/o 2D0-2D1 2D2-2D7/o 2DE-2DF/o",
  "2E5-2ED/o 2EE 2EF-2FF/o 300-314/mTM230 315/mTM232 316-319/mTM220 31A/mTM232 31B/mTM216",
  "31C-320/mTM220 321-322/mTM202 323-326/mTM220 327-328/mTM202 329-333/mTM220 334-338/mTM1",
  "339-33C/mTM220 33D-33F/mTM230 342/mTM230 346/mTM230 347-349/mTM220 34A-34C/mTM230",
  "34D-34E/mTM220 350-352/mTM230 353-356/mTM220 357/mTM230 358/mTM232 359-35A/mTM220 35B/mTM230",
  "35C/mTM233 35D-35E/mTM234 35F/mTM233 360-361/mTM234 362/mTM233 363-36F/mTM230 371 373 375/o",
  "377 37B-37D 390 3AC-3CE 3D7 3D9 3DB 3DD 3DF 3E1 3E3 3E5 3E7 3E9 3EB 3ED 3EF 3F3 3F6/o 3F8",
  "3FB-3FC 430-45F 461 463 465 467 469 46B 46D 46F 471 473 475 477 479 47B 47D 47F 481-482",
  "483-487/mTM230 488-489/mTM 48B 48D 48F 491 493 495 497 499 49B 49D 49F 4A1 4A3 4A5 4A7 4A9 4AB",
  "4AD 4AF 4B1 4B3 4B5 4B7 4B9 4BB 4BD 4BF 4C2 4C4 4C6 4C8 4CA 4CC 4CE-4CF 4D1 4D3 4D5 4D7 4D9",
  "4DB 4DD 4DF 4E1 4E3 4E5 4E7 4E9 4EB 4ED 4EF 4F1 4F3 4F5 4F7 4F9 4FB 4FD 4FF 501 503 505 507",
  "509 50B 50D 50F 511 513 515 517 519 51B 51D 51F 521 523 525 527 529 52B 52D 52F 559-586",
  "588-589 58A/o 58D-58E/o 58F/t 591/mTM220 592-595/mTM230 596/mTM220 597-599/mTM230 59A/mTM222",
  "59B/mTM220 59C-5A1/mTM230 5A2-5A7/mTM220 5A8-5A9/mTM230 5AA/mTM220 5AB-5AC/mTM230 5AD/mTM222",
  "5AE/mTM228 5AF/mTM230 5B0/mTM10 5B1/mTM11 5B2/mTM12 5B3/mTM13 5B4/mTM14 5B5/mTM15 5B6/mTM16",
  "5B7/mTM17 5B8/mTM18 5B9-5BA/mTM19 5BB/mTM20 5BC/mTM21 5BD/mTM22 5BE/r 5BF/mTM23 5C0/r",
  "5C1/mTM24 5C2/mTM25 5C3/r 5C4/mTM230 5C5/mTM220 5C6/r 5C7/mTM18 5D0-5EA/r 5EF-5F4/r 606-607/o",
  "608/a 609-60A/t 60B/a 60C/c 60D/a 60E-60F/o 610-617/mTM230 618/mTM30 619/mTM31 61A/mTM32 61B/a",
  "61D-61F/a 620/aD 621/a 622-625/aR 626/aD 627/aR 628/aD 629/aR 62A-62E/aD 62F-632/aR 633-63F/aD",
  "640/a 641-647/aD 648/aR 649-64A/aD 64B/mTM27 64C/mTM28 64D/mTM29 64E/mTM30 64F/mTM31 650/mTM32",
  "651/mTM33 652/mTM34 653-654/mTM230 655-656/mTM220 657-65B/mTM230 65C/mTM220 65D-65E/mTM230",
  "65F/mTM220 660-669/n 66A/t 66B-66C/n 66D/a 66E-66F/aD 670/mTM35 671-673/aR 674/a 679-687/aD",
  "688-699/aR 69A-6BF/aD 6C0/aR 6C1-6C2/aD 6C3-6CB/aR 6CC/aD 6CD/aR 6CE/aD 6CF/aR 6D0-6D1/aD",
  "6D2-6D3/aR 6D4/a 6D5/aR 6D6-6DC/mTM230 6DE/o 6DF-6E2/mTM230 6E3/mTM220 6E4/mTM230 6E5-6E6/a",
  "6E7-6E8/mTM230 6E9/o 6EA/mTM220 6EB-6EC/mTM230 6ED/mTM220 6EE-6EF/aR 6F0-6F9/e 6FA-6FC/aD",
  "6FD-6FE/a 6FF/aD 700-70D/a 710/aR 711/mTM36 712-714/aD 715-719/aR 71A-71D/aD 71E/aR 71F-727/aD",
  "728/aR 729/aD 72A/aR 72B/aD 72C/aR 72D-72E/aD 72F/aR 730/mTM230 731/mTM220 732-733/mTM230",
  "734/mTM220 735-736/mTM230 737-739/mTM220 73A/mTM230 73B-73C/mTM220 73D/mTM230 73E/mTM220",
  "73F-741/mTM230 742/mTM220 743/mTM230 744/mTM220 745/mTM230 746/mTM220 747/mTM230 748/mTM220",
  "749-74A/mTM230 74D/aR 74E-758/aD 759-75B/aR 75C-76A/aD 76B-76C/aR 76D-770/aD 771/aR 772/aD",
  "773-774/aR 775-777/aD 778-779/aR 77A-77F/aD 780-7A5/a 7A6-7B0/mTM 7B1/a 7C0-7C9/r 7CA-7EA/rD",
  "7EB-7F1/mTM230 7F2/mTM220 7F3/mTM230 7F4-7F5/r 7F6-7F9/o 7FA/r 7FD/mTM220 7FE-815/r",
  "816-819/mTM230 81A/r 81B-823/mTM230 824/r 825-827/mTM230 828/r 829-82D/mTM230 830-83E/r 840/rR",
  "841-845/rD 846-847/rR 848/rD 849/rR 84A-853/rD 854/rR 855/rD 856-858/rR 859-85B/mTM220 85E/r",
  "860/aD 861/a 862-865/aD 866/a 867/aR 868/aD 869-86A/aR 870-882/aR 883-885/a 886/aD 887-888/a",
  "889-88D/aD 88E/aR 88F/aD 897-898/mTM230 899-89B/mTM220 89C-89F/mTM230 8A0-8A9/aD 8AA-8AC/aR",
  "8AD/a 8AE/aR 8AF-8B0/aD 8B1-8B2/aR 8B3-8B8/aD 8B9/aR 8BA-8C8/aD 8C9/a 8CA-8CE/mTM230",
  "8CF-8D3/mTM220 8D4-8E1/mTM230 8E3/mTM220 8E4-8E5/mTM230 8E6/mTM220 8E7-8E8/mTM230 8E9/mTM220",
  "8EA-8EC/mTM230 8ED-8EF/mTM220 8F0/mTM27 8F1/mTM28 8F2/mTM29 8F3-8F5/mTM230 8F6/mTM220",
  "8F7-8F8/mTM230 8F9-8FA/mTM220 8FB-8FF/mTM230 900-902/mTM 903/M 904-939 93A/mTM 93B/M 93C/mTM7",
  "93D 93E-940/M 941-948/mTM 949-94C/M 94D/mTM9 94E-94F/M 950 951/mTM230 952/mTM220",
  "953-954/mTM230 955-957/mTM 960-961 962-963/mTM 964-980 981/mTM 982-983/M 985-98C 98F-990",
  "993-9A8 9AA-9B0 9B2 9B6-9B9 9BC/mTM7 9BD 9BE-9C0/M 9C1-9C4/mTM 9C7-9C8/M 9CB-9CC/M 9CD/mTM9",
  "9CE 9D7/M 9E0-9E1 9E2-9E3/mTM 9E6-9F1 9F2-9F3/t 9F4-9FA 9FB/t 9FC-9FD 9FE/mTM230 A01-A02/mTM",
  "A03/M A05-A0A A0F-A10 A13-A28 A2A-A30 A32 A35 A38-A39 A3C/mTM7 A3E-A40/M A41-A42/mTM",
  "A47-A48/mTM A4B-A4C/mTM A4D/mTM9 A51/mTM A5C A66-A6F A70-A71/mTM A72-A74 A75/mTM A76",
  "A81-A82/mTM A83/M A85-A8D A8F-A91 A93-AA8 AAA-AB0 AB2-AB3 AB5-AB9 ABC/mTM7 ABD ABE-AC0/M",
  "AC1-AC5/mTM AC7-AC8/mTM AC9/M ACB-ACC/M ACD/mTM9 AD0 AE0-AE1 AE2-AE3/mTM AE6-AF0 AF1/t AF9",
  "AFA-AFF/mTM B01/mTM B02-B03/M B05-B0C B0F-B10 B13-B28 B2A-B30 B32-B33 B35-B39 B3C/mTM7 B3D",
  "B3E/M B3F/mTM B40/M B41-B44/mTM B47-B48/M B4B-B4C/M B4D/mTM9 B55-B56/mTM B57/M B5F-B61",
  "B62-B63/mTM B66-B77 B82/mTM B83 B85-B8A B8E-B90 B92-B95 B99-B9A B9C B9E-B9F BA3-BA4 BA8-BAA",
  "BAE-BB9 BBE-BBF/M BC0/mTM BC1-BC2/M BC6-BC8/M BCA-BCC/M BCD/mTM9 BD0 BD7/M BE6-BF2 BF3-BF8/o",
  "BF9/t BFA/o C00/mTM C01-C03/M C04/mTM C05-C0C C0E-C10 C12-C28 C2A-C39 C3C/mTM7 C3D C3E-C40/mTM",
  "C41-C44/M C46-C48/mTM C4A-C4C/mTM C4D/mTM9 C55/mTM84 C56/mTM91 C58-C5A C5C-C5D C60-C61",
  "C62-C63/mTM C66-C6F C77 C78-C7E/o C7F-C80 C81/mTM C82-C83/M C84-C8C C8E-C90 C92-CA8 CAA-CB3",
  "CB5-CB9 CBC/mTM7 CBD CBE/M CBF/TM CC0-CC4/M CC6/TM CC7-CC8/M CCA-CCB/M CCC/mTM CCD/mTM9",
  "CD5-CD6/M CDC-CDE CE0-CE1 CE2-CE3/mTM CE6-CEF CF1-CF2 CF3/M D00-D01/mTM D02-D03/M D04-D0C",
  "D0E-D10 D12-D3A D3B-D3C/mTM9 D3D D3E-D40/M D41-D44/mTM D46-D48/M D4A-D4C/M D4D/mTM9 D4E-D4F",
  "D54-D56 D57/M D58-D61 D62-D63/mTM D66-D7F D81/mTM D82-D83/M D85-D96 D9A-DB1 DB3-DBB DBD",
  "DC0-DC6 DCA/mTM9 DCF-DD1/M DD2-DD4/mTM DD6/mTM DD8-DDF/M DE6-DEF DF2-DF3/M DF4 E01-E30 E31/mTM",
  "E32 E34-E37/mTM E38-E39/mTM103 E3A/mTM9 E3F/t E40-E46 E47/mTM E48-E4B/mTM107 E4C-E4E/mTM",
  "E4F-E5B E81-E82 E84 E86-E8A E8C-EA3 EA5 EA7-EB0 EB1/mTM EB2 EB4-EB7/mTM EB8-EB9/mTM118",
  "EBA/mTM9 EBB-EBC/mTM EBD EC0-EC4 EC6 EC8-ECB/mTM122 ECC-ECE/mTM ED0-ED9 EDE-EDF F00-F0B",
  "F0D-F17 F18-F19/mTM220 F1A-F34 F35/mTM220 F36 F37/mTM220 F38 F39/mTM216 F3A-F3D/o F3E-F3F/M",
  "F40-F42 F44-F47 F49-F4C F4E-F51 F53-F56 F58-F5B F5D-F68 F6A-F6C F71/mTM129 F72/mTM130",
  "F74/mTM132 F7A-F7D/mTM130 F7E/mTM F7F/M F80/mTM130 F82-F83/mTM230 F84/mTM9 F85 F86-F87/mTM230",
  "F88-F8C F8D-F92/mTM F94-F97/mTM F99-F9C/mTM F9E-FA1/mTM FA3-FA6/mTM FA8-FAB/mTM FAD-FB8/mTM",
  "FBA-FBC/mTM FBE-FC5 FC6/mTM220 FC7-FCC FCE-FDA 1000-102A 102B-102C/M 102D-1030/mTM 1031/M",
  "1032-1036/mTM 1037/mTM7 1038/M 1039-103A/mTM9 103B-103C/M 103D-103E/mTM 103F-1055 1056-1057/M",
  "1058-1059/mTM 105A-105D 105E-1060/mTM 1061 1062-1064/M 1065-1066 1067-106D/M 106E-1070",
  "1071-1074/mTM 1075-1081 1082/mTM 1083-1084/M 1085-1086/mTM 1087-108C/M 108D/mTM220 108E 108F/M",
  "1090-1099 109A-109C/M 109D/mTM 109E-109F 10D0-10FB 10FD-115E 1161-1248 124A-124D 1250-1256",
  "1258 125A-125D 1260-1288 128A-128D 1290-12B0 12B2-12B5 12B8-12BE 12C0 12C2-12C5 12C8-12D6",
  "12D8-1310 1312-1315 1318-135A 135D-135F/mTM230 1360-137C 1380-138F 1390-1399/o 13A0-13F5",
  "1400/o 1401-167F 1681-169A 169B-169C/o 16A0-16F8 1700-1711 1712-1713/mTM 1714/mTM9 1715/M9",
  "171F-1731 1732-1733/mTM 1734/M9 1735-1736 1740-1751 1752-1753/mTM 1760-176C 176E-1770",
  "1772-1773/mTM 1780-17B3 17B6/M 17B7-17BD/mTM 17BE-17C5/M 17C6/mTM 17C7-17C8/M 17C9-17D1/mTM",
  "17D2/mTM9 17D3/mTM 17D4-17DA 17DB/t 17DC 17DD/mTM230 17E0-17E9 17F0-17F9/o 1800-1806/o 1807/oD",
  "1808-180A/o 1810-1819 1820-1878/D 1880-1884 1885-1886/mTM 1887-18A8/D 18A9/mTM228 18AA/D",
  "18B0-18F5 1900-191E 1920-1922/mTM 1923-1926/M 1927-1928/mTM 1929-192B/M 1930-1931/M 1932/mTM",
  "1933-1938/M 1939/mTM222 193A/mTM230 193B/mTM220 1940/o 1944-1945/o 1946-196D 1970-1974",
  "1980-19AB 19B0-19C9 19D0-19DA 19DE-19FF/o 1A00-1A16 1A17/mTM230 1A18/mTM220 1A19-1A1A/M",
  "1A1B/mTM 1A1E-1A54 1A55/M 1A56/mTM 1A57/M 1A58-1A5E/mTM 1A60/mTM9 1A61/M 1A62/mTM 1A63-1A64/M",
  "1A65-1A6C/mTM 1A6D-1A72/M 1A73-1A74/mTM 1A75-1A7C/mTM230 1A7F/mTM220 1A80-1A89 1A90-1A99",
  "1AA0-1AAD 1AB0-1AB4/mTM230 1AB5-1ABA/mTM220 1ABB-1ABC/mTM230 1ABD/mTM220 1ABE/mTM",
  "1ABF-1AC0/mTM220 1AC1-1AC2/mTM230 1AC3-1AC4/mTM220 1AC5-1AC9/mTM230 1ACA/mTM220",
  "1ACB-1ADC/mTM230 1ADD/mTM220 1AE0-1AE5/mTM230 1AE6/mTM220 1AE7-1AEA/mTM230 1AEB/mTM234",
  "1B00-1B03/mTM 1B04/M 1B05-1B33 1B34/mTM7 1B35/M 1B36-1B3A/mTM 1B3B/M 1B3C/mTM 1B3D-1B41/M",
  "1B42/mTM 1B43/M 1B44/M9 1B45-1B4C 1B4E-1B6A 1B6B/mTM230 1B6C/mTM220 1B6D-1B73/mTM230 1B74-1B7F",
  "1B80-1B81/mTM 1B82/M 1B83-1BA0 1BA1/M 1BA2-1BA5/mTM 1BA6-1BA7/M 1BA8-1BA9/mTM 1BAA/M9",
  "1BAB/mTM9 1BAC-1BAD/mTM 1BAE-1BE5 1BE6/mTM7 1BE7/M 1BE8-1BE9/mTM 1BEA-1BEC/M 1BED/mTM 1BEE/M",
  "1BEF-1BF1/mTM 1BF2-1BF3/M9 1BFC-1C23 1C24-1C2B/M 1C2C-1C33/mTM 1C34-1C35/M 1C36/mTM 1C37/mTM7",
  "1C3B-1C49 1C4D-1C7F 1C8A 1CC0-1CC7 1CD0-1CD2/mTM230 1CD3 1CD4/mTM1 1CD5-1CD9/mTM220",
  "1CDA-1CDB/mTM230 1CDC-1CDF/mTM220 1CE0/mTM230 1CE1/M 1CE2-1CE8/mTM1 1CE9-1CEC 1CED/mTM220",
  "1CEE-1CF3 1CF4/mTM230 1CF5-1CF6 1CF7/M 1CF8-1CF9/mTM230 1CFA 1D00-1D2B 1D2F 1D3B 1D4E",
  "1D6B-1D77 1D79-1D9A 1DC0-1DC1/mTM230 1DC2/mTM220 1DC3-1DC9/mTM230 1DCA/mTM220 1DCB-1DCC/mTM230",
  "1DCD/mTM234 1DCE/mTM214 1DCF/mTM220 1DD0/mTM202 1DD1-1DF5/mTM230 1DF6/mTM232 1DF7-1DF8/mTM228",
  "1DF9/mTM220 1DFA/mTM218 1DFB/mTM230 1DFC/mTM233 1DFD/mTM220 1DFE/mTM230 1DFF/mTM220 1E01 1E03",
  "1E05 1E07 1E09 1E0B 1E0D 1E0F 1E11 1E13 1E15 1E17 1E19 1E1B 1E1D 1E1F 1E21 1E23 1E25 1E27 1E29",
  "1E2B 1E2D 1E2F 1E31 1E33 1E35 1E37 1E39 1E3B 1E3D 1E3F 1E41 1E43 1E45 1E47 1E49 1E4B 1E4D 1E4F",
  "1E51 1E53 1E55 1E57 1E59 1E5B 1E5D 1E5F 1E61 1E63 1E65 1E67 1E69 1E6B 1E6D 1E6F 1E71 1E73 1E75",
  "1E77 1E79 1E7B 1E7D 1E7F 1E81 1E83 1E85 1E87 1E89 1E8B 1E8D 1E8F 1E91 1E93 1E95-1E99 1E9C-1E9D",
  "1E9F 1EA1 1EA3 1EA5 1EA7 1EA9 1EAB 1EAD 1EAF 1EB1 1EB3 1EB5 1EB7 1EB9 1EBB 1EBD 1EBF 1EC1 1EC3",
  "1EC5 1EC7 1EC9 1ECB 1ECD 1ECF 1ED1 1ED3 1ED5 1ED7 1ED9 1EDB 1EDD 1EDF 1EE1 1EE3 1EE5 1EE7 1EE9",
  "1EEB 1EED 1EEF 1EF1 1EF3 1EF5 1EF7 1EF9 1EFB 1EFD 1EFF-1F07 1F10-1F15 1F20-1F27 1F30-1F37",
  "1F40-1F45 1F50-1F57 1F60-1F67 1F70 1F72 1F74 1F76 1F78 1F7A 1F7C 1FB0-1FB1 1FB6 1FC6 1FD0-1FD2",
  "1FD6-1FD7 1FE0-1FE2 1FE4-1FE7 1FF6 200C-200D/b 2010/o 2012-2016/o 2018-2023/o 2027/o",
  "2030-2032/t 2035/o 2038-203B/o 203D/o 203F-2043/o 2044/c 2045-2046/o 204A-2056/o 2058-205E/o",
  "20A0-20A7/t 20A9-20C1/t 20D0-20D1/mTM230 20D2-20D3/mTM1 20D4-20D7/mTM230 20D8-20DA/mTM1",
  "20DB-20DC/mTM230 20DD-20E0/mTM 20E1/mTM230 20E2-20E4/mTM 20E5-20E6/mTM1 20E7/mTM230",
  "20E8/mTM220 20E9/mTM230 20EA-20EB/mTM1 20EC-20EF/mTM220 20F0/mTM230 2104/o 2108/o 2114/o",
  "2117-2118/o 211E-211F/o 2123/o 2125/o 2127/o 2129/o 212E/t 213A/o 2141-2144/o 214A-214D/o",
  "214E-214F 2180-2182 2184-2188 218A-218B/o 2190-2211/o 2212/s 2213/t 2214-222B/o 222E/o",
  "2231-2328/o 232B-2335/o 2336-237A 237B-2394/o 2395 2396-2429/o 2440-244A/o 24EB-26AB/o 26AC",
  "26AD-27FF/o 2800-28FF 2900-2A0B/o 2A0D-2A73/o 2A77-2ADB/o 2ADD-2B73/o 2B76-2BFF/o 2C30-2C5F",
  "2C61 2C65-2C66 2C68 2C6A 2C6C 2C71 2C73-2C74 2C76-2C7B 2C81 2C83 2C85 2C87 2C89 2C8B 2C8D 2C8F",
  "2C91 2C93 2C95 2C97 2C99 2C9B 2C9D 2C9F 2CA1 2CA3 2CA5 2CA7 2CA9 2CAB 2CAD 2CAF 2CB1 2CB3 2CB5",
  "2CB7 2CB9 2CBB 2CBD 2CBF 2CC1 2CC3 2CC5 2CC7 2CC9 2CCB 2CCD 2CCF 2CD1 2CD3 2CD5 2CD7 2CD9 2CDB",
  "2CDD 2CDF 2CE1 2CE3-2CE4 2CE5-2CEA/o 2CEC 2CEE 2CEF-2CF1/mTM230 2CF3 2CF9-2CFF/o 2D00-2D25",
  "2D27 2D2D 2D30-2D67 2D70 2D7F/mTM9 2D80-2D96 2DA0-2DA6 2DA8-2DAE 2DB0-2DB6 2DB8-2DBE 2DC0-2DC6",
  "2DC8-2DCE 2DD0-2DD6 2DD8-2DDE 2DE0-2DFF/mTM230 2E00-2E5D/o 2E80-2E99/o 2E9B-2E9E/o 2EA0-2EF2/o",
  "3001/o 3003-3004/o 3005-3007 3008-3020/o 3021-3029 302A/mTM218 302B/mTM228 302C/mTM232",
  "302D/mTM222 302E-302F/M224 3030/o 3031-3035 3037/o 303B-303C 303D-303F/o 3041-3096",
  "3099-309A/mTM8 309D-309E 30A0/o 30A1-30FA 30FB/o 30FC-30FE 3105-312F 3190-3191 31A0-31BF",
  "31C0-31E5/o 31F0-31FF 3248-324F 327F 3400-4DBF 4DC0-4DFF/o 4E00-A48C A490-A4C6/o A4D0-A60C",
  "A60D-A60F/o A610-A62B A641 A643 A645 A647 A649 A64B A64D A64F A651 A653 A655 A657 A659 A65B",
  "A65D A65F A661 A663 A665 A667 A669 A66B A66D-A66E A66F/mTM230 A670-A672/mTM A673/o",
  "A674-A67D/mTM230 A67E-A67F/o A681 A683 A685 A687 A689 A68B A68D A68F A691 A693 A695 A697 A699",
  "A69B A69E-A69F/mTM230 A6A0-A6EF A6F0-A6F1/mTM230 A6F2-A6F7 A700-A721/o A723 A725 A727 A729",
  "A72B A72D A72F-A731 A733 A735 A737 A739 A73B A73D A73F A741 A743 A745 A747 A749 A74B A74D A74F",
  "A751 A753 A755 A757 A759 A75B A75D A75F A761 A763 A765 A767 A769 A76B A76D A76F A771-A778 A77A",
  "A77C A77F A781 A783 A785 A787 A788/o A789-A78A A78C A78E-A78F A791 A793-A795 A797 A799 A79B",
  "A79D A79F A7A1 A7A3 A7A5 A7A7 A7A9 A7AF A7B5 A7B7 A7B9 A7BB A7BD A7BF A7C1 A7C3 A7C8 A7CA A7CD",
  "A7CF A7D1 A7D3 A7D5 A7D7 A7D9 A7DB A7F6-A7F7 A7FA-A801 A802/mTM A803-A805 A806/mTM9 A807-A80A",
  "A80B/mTM A80C-A822 A823-A824/M A825-A826/mTM A827/M A828-A82B/o A82C/mTM9 A830-A837",
  "A838-A839/t A840-A871/D A872/L A873 A874-A877/o A880-A881/M A882-A8B3 A8B4-A8C3/M A8C4/mTM9",
  "A8C5/mTM A8CE-A8D9 A8E0-A8F1/mTM230 A8F2-A8FE A8FF/mTM A900-A925 A926-A92A/mTM",
  "A92B-A92D/mTM220 A92E-A946 A947-A951/mTM A952/M A953/M9 A95F-A97C A980-A982/mTM A983/M",
  "A984-A9B2 A9B3/mTM7 A9B4-A9B5/M A9B6-A9B9/mTM A9BA-A9BB/M A9BC-A9BD/mTM A9BE-A9BF/M A9C0/M9",
  "A9C1-A9CD A9CF-A9D9 A9DE-A9E4 A9E5/mTM A9E6-A9FE AA00-AA28 AA29-AA2E/mTM AA2F-AA30/M",
  "AA31-AA32/mTM AA33-AA34/M AA35-AA36/mTM AA40-AA42 AA43/mTM AA44-AA4B AA4C/mTM AA4D/M AA50-AA59",
  "AA5C-AA7A AA7B/M AA7C/mTM AA7D/M AA7E-AAAF AAB0/mTM230 AAB1 AAB2-AAB3/mTM230 AAB4/mTM220",
  "AAB5-AAB6 AAB7-AAB8/mTM230 AAB9-AABD AABE-AABF/mTM230 AAC0 AAC1/mTM230 AAC2 AADB-AAEA AAEB/M",
  "AAEC-AAED/mTM AAEE-AAEF/M AAF0-AAF4 AAF5/M AAF6/mTM9 AB01-AB06 AB09-AB0E AB11-AB16 AB20-AB26",
  "AB28-AB2E AB30-AB5B AB60-AB68 AB6A-AB6B/o ABC0-ABE2 ABE3-ABE4/M ABE5/mTM ABE6-ABE7/M ABE8/mTM",
  "ABE9-ABEA/M ABEB ABEC/M ABED/mTM9 ABF0-ABF9 AC00-D7A3 D7B0-D7C6 D7CB-D7FB FA0E-FA0F FA11",
  "FA13-FA14 FA1F FA21 FA23-FA24 FA27-FA29 FB1E/mTM26 FBB2-FBC2/a FBC3-FBD2/o FD3E-FD4F/o",
  "FD90-FD91/o FDC8-FDCF/o FDFD-FDFF/o FE20-FE26/mTM230 FE27-FE2D/mTM220 FE2E-FE2F/mTM230",
  "FE45-FE46/o FE73/a 10000-1000B 1000D-10026 10028-1003A 1003C-1003D 1003F-1004D 10050-1005D",
  "10080-100FA 10100 10101/o 10102 10107-10133 10137-1013F 10140-1018C/o 1018D-1018E",
  "10190-1019C/o 101A0/o 101D0-101FC 101FD/mTM220 10280-1029C 102A0-102D0 102E0/mTM220",
  "102E1-102FB/e 10300-10323 1032D-1034A 10350-10375 10376-1037A/mTM230 10380-1039D 1039F-103C3",
  "103C8-103D5 10428-1049D 104A0-104A9 104D8-104FB 10500-10527 10530-10563 1056F 10597-105A1",
  "105A3-105B1 105B3-105B9 105BB-105BC 105C0-105F3 10600-10736 10740-10755 10760-10767 10780",
  "10800-10805/r 10808/r 1080A-10835/r 10837-10838/r 1083C/r 1083F-10855/r 10857-1089E/r",
  "108A7-108AF/r 108E0-108F2/r 108F4-108F5/r 108FB-1091B/r 1091F/o 10920-10939/r 1093F-10959/r",
  "10980-109B7/r 109BC-109CF/r 109D2-10A00/r 10A01-10A03/mTM 10A05-10A06/mTM 10A0C/mTM",
  "10A0D/mTM220 10A0E/mTM 10A0F/mTM230 10A10-10A13/r 10A15-10A17/r 10A19-10A35/r 10A38/mTM230",
  "10A39/mTM1 10A3A/mTM220 10A3F/mTM9 10A40-10A48/r 10A50-10A58/r 10A60-10A9F/r 10AC0-10AC4/rD",
  "10AC5/rR 10AC6/r 10AC7/rR 10AC8/r 10AC9-10ACA/rR 10ACB-10ACC/r 10ACD/rL 10ACE-10AD2/rR",
  "10AD3-10AD6/rD 10AD7/rL 10AD8-10ADC/rD 10ADD/rR 10ADE-10AE0/rD 10AE1/rR 10AE2-10AE3/r 10AE4/rR",
  "10AE5/mTM230 10AE6/mTM220 10AEB-10AEE/rD 10AEF/rR 10AF0-10AF6/r 10B00-10B35/r 10B39-10B3F/o",
  "10B40-10B55/r 10B58-10B72/r 10B78-10B7F/r 10B80/rD 10B81/rR 10B82/rD 10B83-10B85/rR",
  "10B86-10B88/rD 10B89/rR 10B8A-10B8B/rD 10B8C/rR 10B8D/rD 10B8E-10B8F/rR 10B90/rD 10B91/rR",
  "10B99-10B9C/r 10BA9-10BAC/rR 10BAD-10BAE/rD 10BAF/r 10C00-10C48/r 10CC0-10CF2/r 10CFA-10CFF/r",
  "10D00/aL 10D01-10D21/aD 10D22/aR 10D23/aD 10D24-10D27/mTM230 10D30-10D39/n 10D40-10D4F/r",
  "10D69-10D6D/mTM230 10D6E/o 10D6F-10D85/r 10D8E-10D8F/r 10E60-10E7E/n 10E80-10EA9/r",
  "10EAB-10EAC/mTM230 10EAD/r 10EB0-10EB1/r 10EC2/aR 10EC3-10EC4/aD 10EC5/a 10EC6-10EC7/aD",
  "10ED0-10ED8/o 10EFA-10EFB/mTM220 10EFC/mTM 10EFD-10EFF/mTM220 10F00-10F27/r 10F30-10F32/aD",
  "10F33/aR 10F34-10F44/aD 10F45/a 10F46-10F47/mTM220 10F48-10F4A/mTM230 10F4B/mTM220",
  "10F4C/mTM230 10F4D-10F50/mTM220 10F51-10F53/aD 10F54/aR 10F55-10F59/a 10F70-10F73/rD",
  "10F74-10F75/rR 10F76-10F81/rD 10F82/mTM230 10F83/mTM220 10F84/mTM230 10F85/mTM220",
  "10F86-10F89/r 10FB0/rD 10FB1/r 10FB2-10FB3/rD 10FB4-10FB6/rR 10FB7/r 10FB8/rD 10FB9-10FBA/rR",
  "10FBB-10FBC/rD 10FBD/rR 10FBE-10FBF/rD 10FC0/r 10FC1/rD 10FC2-10FC3/rR 10FC4/rD 10FC5-10FC8/r",
  "10FC9/rR 10FCA/rD 10FCB/rL 10FE0-10FF6/r 11000/M 11001/mTM 11002/M 11003-11037 11038-11045/mTM",
  "11046/mTM9 11047-1104D 11052-11065/o 11066-1106F 11070/mTM9 11071-11072 11073-11074/mTM 11075",
  "1107F/mTM9 11080-11081/mTM 11082/M 11083-110AF 110B0-110B2/M 110B3-110B6/mTM 110B7-110B8/M",
  "110B9/mTM9 110BA/mTM7 110BB-110BC 110BE-110C1 110C2/mTM 110D0-110E8 110F0-110F9",
  "11100-11102/mTM230 11103-11126 11127-1112B/mTM 1112C/M 1112D-11132/mTM 11133-11134/mTM9",
  "11136-11144 11145-11146/M 11147 11150-11172 11173/mTM7 11174-11176 11180-11181/mTM 11182/M",
  "11183-111B2 111B3-111B5/M 111B6-111BE/mTM 111BF/M 111C0/M9 111C1-111C8 111C9/mTM 111CA/mTM7",
  "111CB-111CC/mTM 111CD 111CE/M 111CF/mTM 111D0-111DF 111E1-111F4 11200-11211 11213-1122B",
  "1122C-1122E/M 1122F-11231/mTM 11232-11233/M 11234/mTM 11235/M9 11236/mTM7 11237/mTM",
  "11238-1123D 1123E/mTM 1123F-11240 11241/mTM 11280-11286 11288 1128A-1128D 1128F-1129D",
  "1129F-112A9 112B0-112DE 112DF/mTM 112E0-112E2/M 112E3-112E8/mTM 112E9/mTM7 112EA/mTM9",
  "112F0-112F9 11300-11301/mTM 11302-11303/M 11305-1130C 1130F-11310 11313-11328 1132A-11330",
  "11332-11333 11335-11339 1133B-1133C/mTM7 1133D 1133E-1133F/M 11340/mTM 11341-11344/M",
  "11347-11348/M 1134B-1134C/M 1134D/M9 11350 11357/M 1135D-11361 11362-11363/M",
  "11366-1136C/mTM230 11370-11374/mTM230 11380-11389 1138B 1138E 11390-113B5 113B7 113B8-113BA/M",
  "113BB-113C0/mTM 113C2/M 113C5/M 113C7-113CA/M 113CC-113CD/M 113CE/mTM9 113CF/M9 113D0/mTM9",
  "113D1 113D2/mTM 113D3-113D5 113D7-113D8 113E1-113E2/mTM 11400-11434 11435-11437/M",
  "11438-1143F/mTM 11440-11441/M 11442/mTM9 11443-11444/mTM 11445/M 11446/mTM7 11447-1145B 1145D",
  "1145E/mTM230 1145F-11461 11480-114AF 114B0-114B2/M 114B3-114B8/mTM 114B9/M 114BA/mTM",
  "114BB-114BE/M 114BF-114C0/mTM 114C1/M 114C2/mTM9 114C3/mTM7 114C4-114C7 114D0-114D9",
  "11580-115AE 115AF-115B1/M 115B2-115B5/mTM 115B8-115BB/M 115BC-115BD/mTM 115BE/M 115BF/mTM9",
  "115C0/mTM7 115C1-115DB 115DC-115DD/mTM 11600-1162F 11630-11632/M 11633-1163A/mTM 1163B-1163C/M",
  "1163D/mTM 1163E/M 1163F/mTM9 11640/mTM 11641-11644 11650-11659 11660-1166C/o 11680-116AA",
  "116AB/mTM 116AC/M 116AD/mTM 116AE-116AF/M 116B0-116B5/mTM 116B6/M9 116B7/mTM7 116B8-116B9",
  "116C0-116C9 116D0-116E3 11700-1171A 1171D/mTM 1171E/M 1171F/mTM 11720-11721/M 11722-11725/mTM",
  "11726/M 11727-1172A/mTM 1172B/mTM9 11730-11746 11800-1182B 1182C-1182E/M 1182F-11837/mTM",
  "11838/M 11839/mTM9 1183A/mTM7 1183B 118C0-118F2 118FF-11906 11909 1190C-11913 11915-11916",
  "11918-1192F 11930-11935/M 11937-11938/M 1193B-1193C/mTM 1193D/M9 1193E/mTM9 1193F 11940/M",
  "11941 11942/M 11943/mTM7 11944-11946 11950-11959 119A0-119A7 119AA-119D0 119D1-119D3/M",
  "119D4-119D7/mTM 119DA-119DB/mTM 119DC-119DF/M 119E0/mTM9 119E1-119E3 119E4/M 11A00",
  "11A01-11A06/mTM 11A07-11A08/TM 11A09-11A0A/mTM 11A0B-11A32 11A33/mTM 11A34/mTM9",
  "11A35-11A38/mTM 11A39/M 11A3A 11A3B-11A3E/mTM 11A3F-11A46 11A47/mTM9 11A50 11A51-11A56/mTM",
  "11A57-11A58/M 11A59-11A5B/mTM 11A5C-11A89 11A8A-11A96/mTM 11A97/M 11A98/mTM 11A99/mTM9",
  "11A9A-11AA2 11AB0-11AF8 11B00-11B09 11B60/mTM 11B61/M 11B62-11B64/mTM 11B65/M 11B66/mTM",
  "11B67/M 11BC0-11BE1 11BF0-11BF9 11C00-11C08 11C0A-11C2E 11C2F/M 11C30-11C36/mTM",
  "11C38-11C3D/mTM 11C3E/M 11C3F/TM9 11C40-11C45 11C50-11C6C 11C70-11C8F 11C92-11CA7/mTM 11CA9/M",
  "11CAA-11CB0/mTM 11CB1/M 11CB2-11CB3/mTM 11CB4/M 11CB5-11CB6/mTM 11D00-11D06 11D08-11D09",
  "11D0B-11D30 11D31-11D36/mTM 11D3A/mTM 11D3C-11D3D/mTM 11D3F-11D41/mTM 11D42/mTM7 11D43/mTM",
  "11D44-11D45/mTM9 11D46 11D47/mTM 11D50-11D59 11D60-11D65 11D67-11D68 11D6A-11D89 11D8A-11D8E/M",
  "11D90-11D91/mTM 11D93-11D94/M 11D95/mTM 11D96/M 11D97/mTM9 11D98 11DA0-11DA9 11DB0-11DDB",
  "11DE0-11DE9 11EE0-11EF2 11EF3-11EF4/mTM 11EF5-11EF6/M 11EF7-11EF8 11F00-11F01/mTM 11F02",
  "11F03/M 11F04-11F10 11F12-11F33 11F34-11F35/M 11F36-11F3A/mTM 11F3E-11F3F/M 11F40/mTM 11F41/M9",
  "11F42/mTM9 11F43-11F59 11F5A/mTM 11FB0 11FC0-11FD4 11FD5-11FDC/o 11FDD-11FE0/t 11FE1-11FF1/o",
  "11FFF-12399 12400-1246E 12470-12474 12480-12543 12F90-12FF2 13000-1342F 13440/mTM 13441-13446",
  "13447-13455/mTM 13460-143FA 14400-14646 16100-1611D 1611E-16129/mTM 1612A-1612C/M",
  "1612D-1612E/mTM 1612F/mTM9 16130-16139 16800-16A38 16A40-16A5E 16A60-16A69 16A6E-16ABE",
  "16AC0-16AC9 16AD0-16AED 16AF0-16AF4/mTM1 16AF5 16B00-16B2F 16B30-16B36/mTM230 16B37-16B45",
  "16B50-16B59 16B5B-16B61 16B63-16B77 16B7D-16B8F 16D40-16D79 16E60-16E9A 16EBB-16ED3",
  "16F00-16F4A 16F4F/mTM 16F50 16F51-16F87/M 16F8F-16F92/mTM 16F93-16F9F 16FE0-16FE1 16FE2/o",
  "16FE3 16FE4/mTM 16FF0-16FF1/M6 16FF2-16FF6 17000-18CD5 18CFF-18D1E 18D80-18DF2 1AFF0-1AFF3",
  "1AFF5-1AFFB 1AFFD-1AFFE 1B000-1B122 1B132 1B150-1B152 1B155 1B164-1B167 1B170-1B2FB",
  "1BC00-1BC6A 1BC70-1BC7C 1BC80-1BC88 1BC90-1BC99 1BC9C 1BC9D/mTM 1BC9E/mTM1 1BC9F 1CC00-1CCD5/o",
  "1CCFA-1CCFC/o 1CD00-1CEB3/o 1CEBA-1CED0/o 1CEE0-1CEF0/o 1CF00-1CF2D/mTM 1CF30-1CF46/mTM",
  "1CF50-1CFC3 1D000-1D0F5 1D100-1D126 1D129-1D15D 1D165-1D166/M216 1D167-1D169/mTM1 1D16A-1D16C",
  "1D16D/M226 1D16E-1D172/M216 1D17B-1D182/mTM220 1D183-1D184 1D185-1D189/mTM230",
  "1D18A-1D18B/mTM220 1D18C-1D1A9 1D1AA-1D1AD/mTM230 1D1AE-1D1BA 1D1C1-1D1E8 1D1E9-1D1EA/o",
  "1D200-1D241/o 1D242-1D244/mTM230 1D245/o 1D2C0-1D2D3 1D2E0-1D2F3 1D300-1D356/o 1D360-1D378",
  "1D800-1D9FF 1DA00-1DA36/mTM 1DA37-1DA3A 1DA3B-1DA6C/mTM 1DA6D-1DA74 1DA75/mTM 1DA76-1DA83",
  "1DA84/mTM 1DA85-1DA8B 1DA9B-1DA9F/mTM 1DAA1-1DAAF/mTM 1DF00-1DF1E 1DF25-1DF2A",
  "1E000-1E006/mTM230 1E008-1E018/mTM230 1E01B-1E021/mTM230 1E023-1E024/mTM230 1E026-1E02A/mTM230",
  "1E08F/mTM230 1E100-1E12C 1E130-1E136/mTM230 1E137-1E13D 1E140-1E149 1E14E-1E14F 1E290-1E2AD",
  "1E2AE/mTM230 1E2C0-1E2EB 1E2EC-1E2EF/mTM230 1E2F0-1E2F9 1E2FF/t 1E4D0-1E4EB 1E4EC-1E4ED/mTM232",
  "1E4EE/mTM220 1E4EF/mTM230 1E4F0-1E4F9 1E5D0-1E5ED 1E5EE/mTM230 1E5EF/mTM220 1E5F0-1E5FA 1E5FF",
  "1E6C0-1E6DE 1E6E0-1E6E2 1E6E3/mTM230 1E6E4-1E6E5 1E6E6/mTM230 1E6E7-1E6ED 1E6EE-1E6EF/mTM230",
  "1E6F0-1E6F4 1E6F5/mTM230 1E6FE-1E6FF 1E7E0-1E7E6 1E7E8-1E7EB 1E7ED-1E7EE 1E7F0-1E7FE",
  "1E800-1E8C4/r 1E8C7-1E8CF/r 1E8D0-1E8D6/mTM220 1E922-1E943/rD 1E944-1E949/mTM230 1E94A/mTM7",
  "1E94B/rT 1E950-1E959/r 1E95E-1E95F/r 1EC71-1ECB4/a 1ED01-1ED3D/a 1EEF0-1EEF1/o 1F000-1F02B/o",
  "1F030-1F093/o 1F0A0-1F0AE/o 1F0B1-1F0BF/o 1F0C1-1F0CF/o 1F0D1-1F0F5/o 1F10B-1F10F/o 1F12F/o",
  "1F150-1F169 1F16D-1F16F/o 1F170-1F18F 1F191-1F1AC 1F1AD/o 1F1E6-1F1FF 1F260-1F265/o",
  "1F300-1F6D8/o 1F6DC-1F6EC/o 1F6F0-1F6FC/o 1F700-1F7D9/o 1F7E0-1F7EB/o 1F7F0/o 1F800-1F80B/o",
  "1F810-1F847/o 1F850-1F859/o 1F860-1F887/o 1F890-1F8AD/o 1F8B0-1F8BB/o 1F8C0-1F8C1/o",
  "1F8D0-1F8D8/o 1F900-1FA57/o 1FA60-1FA6D/o 1FA70-1FA7C/o 1FA80-1FA8A/o 1FA8E-1FAC6/o 1FAC8/o",
  "1FACD-1FADC/o 1FADF-1FAEA/o 1FAEF-1FAF8/o 1FB00-1FB92/o 1FB94-1FBEF/o 1FBFA/o 20000-2A6DF",
  "2A700-2B81D 2B820-2CEAD 2CEB0-2EBE0 2EBF0-2EE5D 30000-3134A 31350-33479"
]

end RealmConvergence.Http.DomainName

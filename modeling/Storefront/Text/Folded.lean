import Storefront.Text.Table

/-!
# Folded text

Texts that differ in case alone have one folded form. It has small letters for capitals, more than
one for some of them, and it has them too for whatever is compatible with a capital, so that folding
comes to nothing new after the compatible form is taken.

## Main definitions

* `CodePoint.folded` — the folded form of a code point
-/

namespace Storefront

/-- The code points that are not their own folded form, with that form. -/
def foldedForms : Text.Table := Text.Table.read
  ["41:61 62 63 64 65 66 67 68 69 6A 6B 6C 6D 6E 6F 70 71 72 73 74 75 76 77 78 79 7A B5:3BC C0:E0",
   "E1 E2 E3 E4 E5 E6 E7 E8 E9 EA EB EC ED EE EF F0 F1 F2 F3 F4 F5 F6 D8:F8 F9 FA FB FC FD FE",
   "73+73 100:101 102:103 104:105 106:107 108:109 10A:10B 10C:10D 10E:10F 110:111 112:113 114:115",
   "116:117 118:119 11A:11B 11C:11D 11E:11F 120:121 122:123 124:125 126:127 128:129 12A:12B",
   "12C:12D 12E:12F 130:69+307 132:133 134:135 136:137 139:13A 13B:13C 13D:13E 13F:140 141:142",
   "143:144 145:146 147:148 149:2BC+6E 14B 14C:14D 14E:14F 150:151 152:153 154:155 156:157",
   "158:159 15A:15B 15C:15D 15E:15F 160:161 162:163 164:165 166:167 168:169 16A:16B 16C:16D",
   "16E:16F 170:171 172:173 174:175 176:177 178:FF 17A 17B:17C 17D:17E 17F:73 181:253 183 184:185",
   "186:254 188 189:256 257 18C 18E:1DD 259 25B 192 193:260 263 196:269 268 199 19C:26F 272",
   "19F:275 1A1 1A2:1A3 1A4:1A5 1A6:280 1A8 1A9:283 1AC:1AD 1AE:288 1B0 1B1:28A 28B 1B4 1B5:1B6",
   "1B7:292 1B9 1BC:1BD 1C4:1C6 1C6 1C7:1C9 1C9 1CA:1CC 1CC 1CD:1CE 1CF:1D0 1D1:1D2 1D3:1D4",
   "1D5:1D6 1D7:1D8 1D9:1DA 1DB:1DC 1DE:1DF 1E0:1E1 1E2:1E3 1E4:1E5 1E6:1E7 1E8:1E9 1EA:1EB",
   "1EC:1ED 1EE:1EF 1F0:6A+30C 1F3 1F3 1F4:1F5 1F6:195 1BF 1F9 1FA:1FB 1FC:1FD 1FE:1FF 200:201",
   "202:203 204:205 206:207 208:209 20A:20B 20C:20D 20E:20F 210:211 212:213 214:215 216:217",
   "218:219 21A:21B 21C:21D 21E:21F 220:19E 222:223 224:225 226:227 228:229 22A:22B 22C:22D",
   "22E:22F 230:231 232:233 23A:2C65 23C 23D:19A 2C66 241:242 243:180 289 28C 247 248:249 24A:24B",
   "24C:24D 24E:24F 345:3B9 370:371 372:373 376:377 37A:20+3B9 37F:3F3 386:3AC 388:3AD 3AE 3AF",
   "38C:3CC 38E:3CD 3CE 3B9+308+301 3B1 3B2 3B3 3B4 3B5 3B6 3B7 3B8 3B9 3BA 3BB 3BC 3BD 3BE 3BF",
   "3C0 3C1 3A3:3C3 3C4 3C5 3C6 3C7 3C8 3C9 3CA 3CB 3B0:3C5+308+301 3C2:3C3 3CF:3D7 3B2 3B8 3C5",
   "3CD 3CB 3C6 3C0 3D8:3D9 3DA:3DB 3DC:3DD 3DE:3DF 3E0:3E1 3E2:3E3 3E4:3E5 3E6:3E7 3E8:3E9",
   "3EA:3EB 3EC:3ED 3EE:3EF 3F0:3BA 3C1 3C3 3F4:3B8 3B5 3F7:3F8 3F9:3C3 3FB 3FD:37B 37C 37D 450",
   "451 452 453 454 455 456 457 458 459 45A 45B 45C 45D 45E 45F 430 431 432 433 434 435 436 437",
   "438 439 43A 43B 43C 43D 43E 43F 440 441 442 443 444 445 446 447 448 449 44A 44B 44C 44D 44E",
   "44F 460:461 462:463 464:465 466:467 468:469 46A:46B 46C:46D 46E:46F 470:471 472:473 474:475",
   "476:477 478:479 47A:47B 47C:47D 47E:47F 480:481 48A:48B 48C:48D 48E:48F 490:491 492:493",
   "494:495 496:497 498:499 49A:49B 49C:49D 49E:49F 4A0:4A1 4A2:4A3 4A4:4A5 4A6:4A7 4A8:4A9",
   "4AA:4AB 4AC:4AD 4AE:4AF 4B0:4B1 4B2:4B3 4B4:4B5 4B6:4B7 4B8:4B9 4BA:4BB 4BC:4BD 4BE:4BF",
   "4C0:4CF 4C2 4C3:4C4 4C5:4C6 4C7:4C8 4C9:4CA 4CB:4CC 4CD:4CE 4D0:4D1 4D2:4D3 4D4:4D5 4D6:4D7",
   "4D8:4D9 4DA:4DB 4DC:4DD 4DE:4DF 4E0:4E1 4E2:4E3 4E4:4E5 4E6:4E7 4E8:4E9 4EA:4EB 4EC:4ED",
   "4EE:4EF 4F0:4F1 4F2:4F3 4F4:4F5 4F6:4F7 4F8:4F9 4FA:4FB 4FC:4FD 4FE:4FF 500:501 502:503",
   "504:505 506:507 508:509 50A:50B 50C:50D 50E:50F 510:511 512:513 514:515 516:517 518:519",
   "51A:51B 51C:51D 51E:51F 520:521 522:523 524:525 526:527 528:529 52A:52B 52C:52D 52E:52F",
   "531:561 562 563 564 565 566 567 568 569 56A 56B 56C 56D 56E 56F 570 571 572 573 574 575 576",
   "577 578 579 57A 57B 57C 57D 57E 57F 580 581 582 583 584 585 586 587:565+582 10A0:2D00 2D01",
   "2D02 2D03 2D04 2D05 2D06 2D07 2D08 2D09 2D0A 2D0B 2D0C 2D0D 2D0E 2D0F 2D10 2D11 2D12 2D13",
   "2D14 2D15 2D16 2D17 2D18 2D19 2D1A 2D1B 2D1C 2D1D 2D1E 2D1F 2D20 2D21 2D22 2D23 2D24 2D25",
   "10C7:2D27 10CD:2D2D 13A0:AB70 AB71 AB72 AB73 AB74 AB75 AB76 AB77 AB78 AB79 AB7A AB7B AB7C",
   "AB7D AB7E AB7F AB80 AB81 AB82 AB83 AB84 AB85 AB86 AB87 AB88 AB89 AB8A AB8B AB8C AB8D AB8E",
   "AB8F AB90 AB91 AB92 AB93 AB94 AB95 AB96 AB97 AB98 AB99 AB9A AB9B AB9C AB9D AB9E AB9F ABA0",
   "ABA1 ABA2 ABA3 ABA4 ABA5 ABA6 ABA7 ABA8 ABA9 ABAA ABAB ABAC ABAD ABAE ABAF ABB0 ABB1 ABB2",
   "ABB3 ABB4 ABB5 ABB6 ABB7 ABB8 ABB9 ABBA ABBB ABBC ABBD ABBE ABBF 13F8 13F9 13FA 13FB 13FC",
   "13FD 1C90:10D0 10D1 10D2 10D3 10D4 10D5 10D6 10D7 10D8 10D9 10DA 10DB 10DC 10DD 10DE 10DF",
   "10E0 10E1 10E2 10E3 10E4 10E5 10E6 10E7 10E8 10E9 10EA 10EB 10EC 10ED 10EE 10EF 10F0 10F1",
   "10F2 10F3 10F4 10F5 10F6 10F7 10F8 10F9 10FA 1CBD:10FD 10FE 10FF 1E00:1E01 1E02:1E03",
   "1E04:1E05 1E06:1E07 1E08:1E09 1E0A:1E0B 1E0C:1E0D 1E0E:1E0F 1E10:1E11 1E12:1E13 1E14:1E15",
   "1E16:1E17 1E18:1E19 1E1A:1E1B 1E1C:1E1D 1E1E:1E1F 1E20:1E21 1E22:1E23 1E24:1E25 1E26:1E27",
   "1E28:1E29 1E2A:1E2B 1E2C:1E2D 1E2E:1E2F 1E30:1E31 1E32:1E33 1E34:1E35 1E36:1E37 1E38:1E39",
   "1E3A:1E3B 1E3C:1E3D 1E3E:1E3F 1E40:1E41 1E42:1E43 1E44:1E45 1E46:1E47 1E48:1E49 1E4A:1E4B",
   "1E4C:1E4D 1E4E:1E4F 1E50:1E51 1E52:1E53 1E54:1E55 1E56:1E57 1E58:1E59 1E5A:1E5B 1E5C:1E5D",
   "1E5E:1E5F 1E60:1E61 1E62:1E63 1E64:1E65 1E66:1E67 1E68:1E69 1E6A:1E6B 1E6C:1E6D 1E6E:1E6F",
   "1E70:1E71 1E72:1E73 1E74:1E75 1E76:1E77 1E78:1E79 1E7A:1E7B 1E7C:1E7D 1E7E:1E7F 1E80:1E81",
   "1E82:1E83 1E84:1E85 1E86:1E87 1E88:1E89 1E8A:1E8B 1E8C:1E8D 1E8E:1E8F 1E90:1E91 1E92:1E93",
   "1E94:1E95 1E96:68+331 74+308 77+30A 79+30A 61+2BE 1E61 1E9E:73+73 1EA0:1EA1 1EA2:1EA3",
   "1EA4:1EA5 1EA6:1EA7 1EA8:1EA9 1EAA:1EAB 1EAC:1EAD 1EAE:1EAF 1EB0:1EB1 1EB2:1EB3 1EB4:1EB5",
   "1EB6:1EB7 1EB8:1EB9 1EBA:1EBB 1EBC:1EBD 1EBE:1EBF 1EC0:1EC1 1EC2:1EC3 1EC4:1EC5 1EC6:1EC7",
   "1EC8:1EC9 1ECA:1ECB 1ECC:1ECD 1ECE:1ECF 1ED0:1ED1 1ED2:1ED3 1ED4:1ED5 1ED6:1ED7 1ED8:1ED9",
   "1EDA:1EDB 1EDC:1EDD 1EDE:1EDF 1EE0:1EE1 1EE2:1EE3 1EE4:1EE5 1EE6:1EE7 1EE8:1EE9 1EEA:1EEB",
   "1EEC:1EED 1EEE:1EEF 1EF0:1EF1 1EF2:1EF3 1EF4:1EF5 1EF6:1EF7 1EF8:1EF9 1EFA:1EFB 1EFC:1EFD",
   "1EFE:1EFF 1F08:1F00 1F01 1F02 1F03 1F04 1F05 1F06 1F07 1F18:1F10 1F11 1F12 1F13 1F14 1F15",
   "1F28:1F20 1F21 1F22 1F23 1F24 1F25 1F26 1F27 1F38:1F30 1F31 1F32 1F33 1F34 1F35 1F36 1F37",
   "1F48:1F40 1F41 1F42 1F43 1F44 1F45 1F50:3C5+313 1F52:3C5+313+300 1F54:3C5+313+301",
   "1F56:3C5+313+342 1F59:1F51 1F5B:1F53 1F5D:1F55 1F5F:1F57 1F68:1F60 1F61 1F62 1F63 1F64 1F65",
   "1F66 1F67 1F80:1F00+3B9 1F01+3B9 1F02+3B9 1F03+3B9 1F04+3B9 1F05+3B9 1F06+3B9 1F07+3B9",
   "1F00+3B9 1F01+3B9 1F02+3B9 1F03+3B9 1F04+3B9 1F05+3B9 1F06+3B9 1F07+3B9 1F20+3B9 1F21+3B9",
   "1F22+3B9 1F23+3B9 1F24+3B9 1F25+3B9 1F26+3B9 1F27+3B9 1F20+3B9 1F21+3B9 1F22+3B9 1F23+3B9",
   "1F24+3B9 1F25+3B9 1F26+3B9 1F27+3B9 1F60+3B9 1F61+3B9 1F62+3B9 1F63+3B9 1F64+3B9 1F65+3B9",
   "1F66+3B9 1F67+3B9 1F60+3B9 1F61+3B9 1F62+3B9 1F63+3B9 1F64+3B9 1F65+3B9 1F66+3B9 1F67+3B9",
   "1FB2:1F70+3B9 3B1+3B9 3AC+3B9 1FB6:3B1+342 3B1+342+3B9 1FB0 1FB1 1F70 1F71 3B1+3B9 1FBE:3B9",
   "1FC2:1F74+3B9 3B7+3B9 3AE+3B9 1FC6:3B7+342 3B7+342+3B9 1F72 1F73 1F74 1F75 3B7+3B9",
   "1FD2:3B9+308+300 3B9+308+301 1FD6:3B9+342 3B9+308+342 1FD0 1FD1 1F76 1F77 1FE2:3C5+308+300",
   "3C5+308+301 3C1+313 1FE6:3C5+342 3C5+308+342 1FE0 1FE1 1F7A 1F7B 1FE5 1FF2:1F7C+3B9 3C9+3B9",
   "3CE+3B9 1FF6:3C9+342 3C9+342+3B9 1F78 1F79 1F7C 1F7D 3C9+3B9 20A8:72+73 2102:63 B0+63",
   "2107:25B 2109:B0+66 210B:68 68 68 2110:69 69 6C 2115:6E 6E+6F 2119:70 71 72 72 72 2120:73+6D",
   "74+65+6C 74+6D 2124:7A 2126:3C9 2128:7A 212A:6B E5 62 63 2130:65 66 214E 6D 213E:3B3 3C0",
   "2145:64 2160:2170 2171 2172 2173 2174 2175 2176 2177 2178 2179 217A 217B 217C 217D 217E 217F",
   "2183:2184 24B6:24D0 24D1 24D2 24D3 24D4 24D5 24D6 24D7 24D8 24D9 24DA 24DB 24DC 24DD 24DE",
   "24DF 24E0 24E1 24E2 24E3 24E4 24E5 24E6 24E7 24E8 24E9 2C00:2C30 2C31 2C32 2C33 2C34 2C35",
   "2C36 2C37 2C38 2C39 2C3A 2C3B 2C3C 2C3D 2C3E 2C3F 2C40 2C41 2C42 2C43 2C44 2C45 2C46 2C47",
   "2C48 2C49 2C4A 2C4B 2C4C 2C4D 2C4E 2C4F 2C50 2C51 2C52 2C53 2C54 2C55 2C56 2C57 2C58 2C59",
   "2C5A 2C5B 2C5C 2C5D 2C5E 2C5F 2C60:2C61 2C62:26B 1D7D 27D 2C67:2C68 2C69:2C6A 2C6B:2C6C",
   "2C6D:251 271 250 252 2C72:2C73 2C75:2C76 2C7E:23F 240 2C81 2C82:2C83 2C84:2C85 2C86:2C87",
   "2C88:2C89 2C8A:2C8B 2C8C:2C8D 2C8E:2C8F 2C90:2C91 2C92:2C93 2C94:2C95 2C96:2C97 2C98:2C99",
   "2C9A:2C9B 2C9C:2C9D 2C9E:2C9F 2CA0:2CA1 2CA2:2CA3 2CA4:2CA5 2CA6:2CA7 2CA8:2CA9 2CAA:2CAB",
   "2CAC:2CAD 2CAE:2CAF 2CB0:2CB1 2CB2:2CB3 2CB4:2CB5 2CB6:2CB7 2CB8:2CB9 2CBA:2CBB 2CBC:2CBD",
   "2CBE:2CBF 2CC0:2CC1 2CC2:2CC3 2CC4:2CC5 2CC6:2CC7 2CC8:2CC9 2CCA:2CCB 2CCC:2CCD 2CCE:2CCF",
   "2CD0:2CD1 2CD2:2CD3 2CD4:2CD5 2CD6:2CD7 2CD8:2CD9 2CDA:2CDB 2CDC:2CDD 2CDE:2CDF 2CE0:2CE1",
   "2CE2:2CE3 2CEB:2CEC 2CED:2CEE 2CF2:2CF3 3371:68+70+61 3373:61+75 3375:6F+76 3380:70+61 6E+61",
   "3BC+61 6D+61 6B+61 6B+62 6D+62 67+62 338A:70+66 6E+66 3BC+66 3390:68+7A 6B+68+7A 6D+68+7A",
   "67+68+7A 74+68+7A 33A9:70+61 6B+70+61 6D+70+61 67+70+61 33B4:70+76 6E+76 3BC+76 6D+76 6B+76",
   "6D+76 70+77 6E+77 3BC+77 6D+77 6B+77 6D+77 6B+3C9 6D+3C9 33C3:62+71 33C6:63+2215+6B+67",
   "63+6F+2E 64+62 67+79 33CB:68+70 33CD:6B+6B 6B+6D 33D7:70+68 33D9:70+70+6D 70+72 33DC:73+76",
   "77+62 A640:A641 A642:A643 A644:A645 A646:A647 A648:A649 A64A:A64B A64C:A64D A64E:A64F",
   "A650:A651 A652:A653 A654:A655 A656:A657 A658:A659 A65A:A65B A65C:A65D A65E:A65F A660:A661",
   "A662:A663 A664:A665 A666:A667 A668:A669 A66A:A66B A66C:A66D A680:A681 A682:A683 A684:A685",
   "A686:A687 A688:A689 A68A:A68B A68C:A68D A68E:A68F A690:A691 A692:A693 A694:A695 A696:A697",
   "A698:A699 A69A:A69B A722:A723 A724:A725 A726:A727 A728:A729 A72A:A72B A72C:A72D A72E:A72F",
   "A732:A733 A734:A735 A736:A737 A738:A739 A73A:A73B A73C:A73D A73E:A73F A740:A741 A742:A743",
   "A744:A745 A746:A747 A748:A749 A74A:A74B A74C:A74D A74E:A74F A750:A751 A752:A753 A754:A755",
   "A756:A757 A758:A759 A75A:A75B A75C:A75D A75E:A75F A760:A761 A762:A763 A764:A765 A766:A767",
   "A768:A769 A76A:A76B A76C:A76D A76E:A76F A779:A77A A77B:A77C A77D:1D79 A77F A780:A781",
   "A782:A783 A784:A785 A786:A787 A78B:A78C A78D:265 A790:A791 A792:A793 A796:A797 A798:A799",
   "A79A:A79B A79C:A79D A79E:A79F A7A0:A7A1 A7A2:A7A3 A7A4:A7A5 A7A6:A7A7 A7A8:A7A9 A7AA:266 25C",
   "261 26C 26A A7B0:29E 287 29D AB53 A7B5 A7B6:A7B7 A7B8:A7B9 A7BA:A7BB A7BC:A7BD A7BE:A7BF",
   "A7C0:A7C1 A7C2:A7C3 A7C4:A794 282 1D8E A7C8 A7C9:A7CA A7D0:A7D1 A7D6:A7D7 A7D8:A7D9 A7F5:A7F6",
   "FB00:66+66 66+69 66+6C 66+66+69 66+66+6C 73+74 73+74 FB13:574+576 574+565 574+56B 57E+576",
   "574+56D FF21:FF41 FF42 FF43 FF44 FF45 FF46 FF47 FF48 FF49 FF4A FF4B FF4C FF4D FF4E FF4F FF50",
   "FF51 FF52 FF53 FF54 FF55 FF56 FF57 FF58 FF59 FF5A 10400:10428 10429 1042A 1042B 1042C 1042D",
   "1042E 1042F 10430 10431 10432 10433 10434 10435 10436 10437 10438 10439 1043A 1043B 1043C",
   "1043D 1043E 1043F 10440 10441 10442 10443 10444 10445 10446 10447 10448 10449 1044A 1044B",
   "1044C 1044D 1044E 1044F 104B0:104D8 104D9 104DA 104DB 104DC 104DD 104DE 104DF 104E0 104E1",
   "104E2 104E3 104E4 104E5 104E6 104E7 104E8 104E9 104EA 104EB 104EC 104ED 104EE 104EF 104F0",
   "104F1 104F2 104F3 104F4 104F5 104F6 104F7 104F8 104F9 104FA 104FB 10570:10597 10598 10599",
   "1059A 1059B 1059C 1059D 1059E 1059F 105A0 105A1 1057C:105A3 105A4 105A5 105A6 105A7 105A8",
   "105A9 105AA 105AB 105AC 105AD 105AE 105AF 105B0 105B1 1058C:105B3 105B4 105B5 105B6 105B7",
   "105B8 105B9 10594:105BB 105BC 10C80:10CC0 10CC1 10CC2 10CC3 10CC4 10CC5 10CC6 10CC7 10CC8",
   "10CC9 10CCA 10CCB 10CCC 10CCD 10CCE 10CCF 10CD0 10CD1 10CD2 10CD3 10CD4 10CD5 10CD6 10CD7",
   "10CD8 10CD9 10CDA 10CDB 10CDC 10CDD 10CDE 10CDF 10CE0 10CE1 10CE2 10CE3 10CE4 10CE5 10CE6",
   "10CE7 10CE8 10CE9 10CEA 10CEB 10CEC 10CED 10CEE 10CEF 10CF0 10CF1 10CF2 118A0:118C0 118C1",
   "118C2 118C3 118C4 118C5 118C6 118C7 118C8 118C9 118CA 118CB 118CC 118CD 118CE 118CF 118D0",
   "118D1 118D2 118D3 118D4 118D5 118D6 118D7 118D8 118D9 118DA 118DB 118DC 118DD 118DE 118DF",
   "16E40:16E60 16E61 16E62 16E63 16E64 16E65 16E66 16E67 16E68 16E69 16E6A 16E6B 16E6C 16E6D",
   "16E6E 16E6F 16E70 16E71 16E72 16E73 16E74 16E75 16E76 16E77 16E78 16E79 16E7A 16E7B 16E7C",
   "16E7D 16E7E 16E7F 1D400:61 62 63 64 65 66 67 68 69 6A 6B 6C 6D 6E 6F 70 71 72 73 74 75 76 77",
   "78 79 7A 1D434:61 62 63 64 65 66 67 68 69 6A 6B 6C 6D 6E 6F 70 71 72 73 74 75 76 77 78 79 7A",
   "1D468:61 62 63 64 65 66 67 68 69 6A 6B 6C 6D 6E 6F 70 71 72 73 74 75 76 77 78 79 7A 1D49C:61",
   "1D49E:63 64 1D4A2:67 1D4A5:6A 6B 1D4A9:6E 6F 70 71 1D4AE:73 74 75 76 77 78 79 7A 1D4D0:61 62",
   "63 64 65 66 67 68 69 6A 6B 6C 6D 6E 6F 70 71 72 73 74 75 76 77 78 79 7A 1D504:61 62 1D507:64",
   "65 66 67 1D50D:6A 6B 6C 6D 6E 6F 70 71 1D516:73 74 75 76 77 78 79 1D538:61 62 1D53B:64 65 66",
   "67 1D540:69 6A 6B 6C 6D 1D546:6F 1D54A:73 74 75 76 77 78 79 1D56C:61 62 63 64 65 66 67 68 69",
   "6A 6B 6C 6D 6E 6F 70 71 72 73 74 75 76 77 78 79 7A 1D5A0:61 62 63 64 65 66 67 68 69 6A 6B 6C",
   "6D 6E 6F 70 71 72 73 74 75 76 77 78 79 7A 1D5D4:61 62 63 64 65 66 67 68 69 6A 6B 6C 6D 6E 6F",
   "70 71 72 73 74 75 76 77 78 79 7A 1D608:61 62 63 64 65 66 67 68 69 6A 6B 6C 6D 6E 6F 70 71 72",
   "73 74 75 76 77 78 79 7A 1D63C:61 62 63 64 65 66 67 68 69 6A 6B 6C 6D 6E 6F 70 71 72 73 74 75",
   "76 77 78 79 7A 1D670:61 62 63 64 65 66 67 68 69 6A 6B 6C 6D 6E 6F 70 71 72 73 74 75 76 77 78",
   "79 7A 1D6A8:3B1 3B2 3B3 3B4 3B5 3B6 3B7 3B8 3B9 3BA 3BB 3BC 3BD 3BE 3BF 3C0 3C1 3B8 3C3 3C4",
   "3C5 3C6 3C7 3C8 3C9 1D6D3:3C3 1D6E2:3B1 3B2 3B3 3B4 3B5 3B6 3B7 3B8 3B9 3BA 3BB 3BC 3BD 3BE",
   "3BF 3C0 3C1 3B8 3C3 3C4 3C5 3C6 3C7 3C8 3C9 1D70D:3C3 1D71C:3B1 3B2 3B3 3B4 3B5 3B6 3B7 3B8",
   "3B9 3BA 3BB 3BC 3BD 3BE 3BF 3C0 3C1 3B8 3C3 3C4 3C5 3C6 3C7 3C8 3C9 1D747:3C3 1D756:3B1 3B2",
   "3B3 3B4 3B5 3B6 3B7 3B8 3B9 3BA 3BB 3BC 3BD 3BE 3BF 3C0 3C1 3B8 3C3 3C4 3C5 3C6 3C7 3C8 3C9",
   "1D781:3C3 1D790:3B1 3B2 3B3 3B4 3B5 3B6 3B7 3B8 3B9 3BA 3BB 3BC 3BD 3BE 3BF 3C0 3C1 3B8 3C3",
   "3C4 3C5 3C6 3C7 3C8 3C9 1D7BB:3C3 1E900:1E922 1E923 1E924 1E925 1E926 1E927 1E928 1E929 1E92A",
   "1E92B 1E92C 1E92D 1E92E 1E92F 1E930 1E931 1E932 1E933 1E934 1E935 1E936 1E937 1E938 1E939",
   "1E93A 1E93B 1E93C 1E93D 1E93E 1E93F 1E940 1E941 1E942 1E943"]

/-- The folded form of a code point. -/
def CodePoint.folded (c : CodePoint) : Text := (foldedForms.get? c.toNat).getD [c]

end Storefront

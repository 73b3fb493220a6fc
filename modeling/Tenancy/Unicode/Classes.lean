import Tenancy.Unicode.Spans

namespace Tenancy.Unicode

/-- General category Mark. -/
def markText : String := "300..36F 483..489 591..5BD 5BF 5C1..5C2 5C4..5C5 5C7 610..61A 64B..65F 670
6D6..6DC 6DF..6E4 6E7..6E8 6EA..6ED 711 730..74A 7A6..7B0 7EB..7F3 7FD 816..819 81B..823 825..827
829..82D 859..85B 897..89F 8CA..8E1 8E3..903 93A..93C 93E..94F 951..957 962..963 981..983 9BC
9BE..9C4 9C7..9C8 9CB..9CD 9D7 9E2..9E3 9FE A01..A03 A3C A3E..A42 A47..A48 A4B..A4D A51 A70..A71 A75
A81..A83 ABC ABE..AC5 AC7..AC9 ACB..ACD AE2..AE3 AFA..AFF B01..B03 B3C B3E..B44 B47..B48 B4B..B4D
B55..B57 B62..B63 B82 BBE..BC2 BC6..BC8 BCA..BCD BD7 C00..C04 C3C C3E..C44 C46..C48 C4A..C4D
C55..C56 C62..C63 C81..C83 CBC CBE..CC4 CC6..CC8 CCA..CCD CD5..CD6 CE2..CE3 CF3 D00..D03 D3B..D3C
D3E..D44 D46..D48 D4A..D4D D57 D62..D63 D81..D83 DCA DCF..DD4 DD6 DD8..DDF DF2..DF3 E31 E34..E3A
E47..E4E EB1 EB4..EBC EC8..ECE F18..F19 F35 F37 F39 F3E..F3F F71..F84 F86..F87 F8D..F97 F99..FBC FC6
102B..103E 1056..1059 105E..1060 1062..1064 1067..106D 1071..1074 1082..108D 108F 109A..109D
135D..135F 1712..1715 1732..1734 1752..1753 1772..1773 17B4..17D3 17DD 180B..180D 180F 1885..1886
18A9 1920..192B 1930..193B 1A17..1A1B 1A55..1A5E 1A60..1A7C 1A7F 1AB0..1ADD 1AE0..1AEB 1B00..1B04
1B34..1B44 1B6B..1B73 1B80..1B82 1BA1..1BAD 1BE6..1BF3 1C24..1C37 1CD0..1CD2 1CD4..1CE8 1CED 1CF4
1CF7..1CF9 1DC0..1DFF 20D0..20F0 2CEF..2CF1 2D7F 2DE0..2DFF 302A..302F 3099..309A A66F..A672
A674..A67D A69E..A69F A6F0..A6F1 A802 A806 A80B A823..A827 A82C A880..A881 A8B4..A8C5 A8E0..A8F1
A8FF A926..A92D A947..A953 A980..A983 A9B3..A9C0 A9E5 AA29..AA36 AA43 AA4C..AA4D AA7B..AA7D AAB0
AAB2..AAB4 AAB7..AAB8 AABE..AABF AAC1 AAEB..AAEF AAF5..AAF6 ABE3..ABEA ABEC..ABED FB1E FE00..FE0F
FE20..FE2F 101FD 102E0 10376..1037A 10A01..10A03 10A05..10A06 10A0C..10A0F 10A38..10A3A 10A3F
10AE5..10AE6 10D24..10D27 10D69..10D6D 10EAB..10EAC 10EFA..10EFF 10F46..10F50 10F82..10F85
11000..11002 11038..11046 11070 11073..11074 1107F..11082 110B0..110BA 110C2 11100..11102
11127..11134 11145..11146 11173 11180..11182 111B3..111C0 111C9..111CC 111CE..111CF 1122C..11237
1123E 11241 112DF..112EA 11300..11303 1133B..1133C 1133E..11344 11347..11348 1134B..1134D 11357
11362..11363 11366..1136C 11370..11374 113B8..113C0 113C2 113C5 113C7..113CA 113CC..113D0 113D2
113E1..113E2 11435..11446 1145E 114B0..114C3 115AF..115B5 115B8..115C0 115DC..115DD 11630..11640
116AB..116B7 1171D..1172B 1182C..1183A 11930..11935 11937..11938 1193B..1193E 11940 11942..11943
119D1..119D7 119DA..119E0 119E4 11A01..11A0A 11A33..11A39 11A3B..11A3E 11A47 11A51..11A5B
11A8A..11A99 11B60..11B67 11C2F..11C36 11C38..11C3F 11C92..11CA7 11CA9..11CB6 11D31..11D36 11D3A
11D3C..11D3D 11D3F..11D45 11D47 11D8A..11D8E 11D90..11D91 11D93..11D97 11EF3..11EF6 11F00..11F01
11F03 11F34..11F3A 11F3E..11F42 11F5A 13440 13447..13455 1611E..1612F 16AF0..16AF4 16B30..16B36
16F4F 16F51..16F87 16F8F..16F92 16FE4 16FF0..16FF1 1BC9D..1BC9E 1CF00..1CF2D 1CF30..1CF46
1D165..1D169 1D16D..1D172 1D17B..1D182 1D185..1D18B 1D1AA..1D1AD 1D242..1D244 1DA00..1DA36
1DA3B..1DA6C 1DA75 1DA84 1DA9B..1DA9F 1DAA1..1DAAF 1E000..1E006 1E008..1E018 1E01B..1E021
1E023..1E024 1E026..1E02A 1E08F 1E130..1E136 1E2AE 1E2EC..1E2EF 1E4EC..1E4EF 1E5EE..1E5EF 1E6E3
1E6E6 1E6EE..1E6EF 1E6F5 1E8D0..1E8D6 1E944..1E94A E0100..E01EF"

/-- Bidirectional classes other than `L`. -/
def directionText : String := "0..8:BN 9:S A:B B:S C:WS D:B E..1B:BN 1C..1E:B 1F:S 20:WS 21..22:ON
23..25:ET 26..2A:ON 2B:ES 2C:CS 2D:ES 2E..2F:CS 30..39:EN 3A:CS 3B..40:ON 5B..60:ON 7B..7E:ON
7F..84:BN 85:B 86..9F:BN A0:CS A1:ON A2..A5:ET A6..A9:ON AB..AC:ON AD:BN AE..AF:ON B0..B1:ET
B2..B3:EN B4:ON B6..B8:ON B9:EN BB..BF:ON D7:ON F7:ON 2B9..2BA:ON 2C2..2CF:ON 2D2..2DF:ON
2E5..2ED:ON 2EF..2FF:ON 300..36F:NSM 374..375:ON 37E:ON 384..385:ON 387:ON 3F6:ON 483..489:NSM
58A:ON 58D..58E:ON 58F:ET 590:R 591..5BD:NSM 5BE:R 5BF:NSM 5C0:R 5C1..5C2:NSM 5C3:R 5C4..5C5:NSM
5C6:R 5C7:NSM 5C8..5FF:R 600..605:AN 606..607:ON 608:AL 609..60A:ET 60B:AL 60C:CS 60D:AL 60E..60F:ON
610..61A:NSM 61B..64A:AL 64B..65F:NSM 660..669:AN 66A:ET 66B..66C:AN 66D..66F:AL 670:NSM 671..6D5:AL
6D6..6DC:NSM 6DD:AN 6DE:ON 6DF..6E4:NSM 6E5..6E6:AL 6E7..6E8:NSM 6E9:ON 6EA..6ED:NSM 6EE..6EF:AL
6F0..6F9:EN 6FA..710:AL 711:NSM 712..72F:AL 730..74A:NSM 74B..7A5:AL 7A6..7B0:NSM 7B1..7BF:AL
7C0..7EA:R 7EB..7F3:NSM 7F4..7F5:R 7F6..7F9:ON 7FA..7FC:R 7FD:NSM 7FE..815:R 816..819:NSM 81A:R
81B..823:NSM 824:R 825..827:NSM 828:R 829..82D:NSM 82E..858:R 859..85B:NSM 85C..85F:R 860..88F:AL
890..891:AN 892..896:AL 897..89F:NSM 8A0..8C9:AL 8CA..8E1:NSM 8E2:AN 8E3..902:NSM 93A:NSM 93C:NSM
941..948:NSM 94D:NSM 951..957:NSM 962..963:NSM 981:NSM 9BC:NSM 9C1..9C4:NSM 9CD:NSM 9E2..9E3:NSM
9F2..9F3:ET 9FB:ET 9FE:NSM A01..A02:NSM A3C:NSM A41..A42:NSM A47..A48:NSM A4B..A4D:NSM A51:NSM
A70..A71:NSM A75:NSM A81..A82:NSM ABC:NSM AC1..AC5:NSM AC7..AC8:NSM ACD:NSM AE2..AE3:NSM AF1:ET
AFA..AFF:NSM B01:NSM B3C:NSM B3F:NSM B41..B44:NSM B4D:NSM B55..B56:NSM B62..B63:NSM B82:NSM BC0:NSM
BCD:NSM BF3..BF8:ON BF9:ET BFA:ON C00:NSM C04:NSM C3C:NSM C3E..C40:NSM C46..C48:NSM C4A..C4D:NSM
C55..C56:NSM C62..C63:NSM C78..C7E:ON C81:NSM CBC:NSM CCC..CCD:NSM CE2..CE3:NSM D00..D01:NSM
D3B..D3C:NSM D41..D44:NSM D4D:NSM D62..D63:NSM D81:NSM DCA:NSM DD2..DD4:NSM DD6:NSM E31:NSM
E34..E3A:NSM E3F:ET E47..E4E:NSM EB1:NSM EB4..EBC:NSM EC8..ECE:NSM F18..F19:NSM F35:NSM F37:NSM
F39:NSM F3A..F3D:ON F71..F7E:NSM F80..F84:NSM F86..F87:NSM F8D..F97:NSM F99..FBC:NSM FC6:NSM
102D..1030:NSM 1032..1037:NSM 1039..103A:NSM 103D..103E:NSM 1058..1059:NSM 105E..1060:NSM
1071..1074:NSM 1082:NSM 1085..1086:NSM 108D:NSM 109D:NSM 135D..135F:NSM 1390..1399:ON 1400:ON
1680:WS 169B..169C:ON 1712..1714:NSM 1732..1733:NSM 1752..1753:NSM 1772..1773:NSM 17B4..17B5:NSM
17B7..17BD:NSM 17C6:NSM 17C9..17D3:NSM 17DB:ET 17DD:NSM 17F0..17F9:ON 1800..180A:ON 180B..180D:NSM
180E:BN 180F:NSM 1885..1886:NSM 18A9:NSM 1920..1922:NSM 1927..1928:NSM 1932:NSM 1939..193B:NSM
1940:ON 1944..1945:ON 19DE..19FF:ON 1A17..1A18:NSM 1A1B:NSM 1A56:NSM 1A58..1A5E:NSM 1A60:NSM
1A62:NSM 1A65..1A6C:NSM 1A73..1A7C:NSM 1A7F:NSM 1AB0..1ADD:NSM 1AE0..1AEB:NSM 1B00..1B03:NSM
1B34:NSM 1B36..1B3A:NSM 1B3C:NSM 1B42:NSM 1B6B..1B73:NSM 1B80..1B81:NSM 1BA2..1BA5:NSM
1BA8..1BA9:NSM 1BAB..1BAD:NSM 1BE6:NSM 1BE8..1BE9:NSM 1BED:NSM 1BEF..1BF1:NSM 1C2C..1C33:NSM
1C36..1C37:NSM 1CD0..1CD2:NSM 1CD4..1CE0:NSM 1CE2..1CE8:NSM 1CED:NSM 1CF4:NSM 1CF8..1CF9:NSM
1DC0..1DFF:NSM 1FBD:ON 1FBF..1FC1:ON 1FCD..1FCF:ON 1FDD..1FDF:ON 1FED..1FEF:ON 1FFD..1FFE:ON
2000..200A:WS 200B..200D:BN 200F:R 2010..2027:ON 2028:WS 2029:B 202A:LRE 202B:RLE 202C:PDF 202D:LRO
202E:RLO 202F:CS 2030..2034:ET 2035..2043:ON 2044:CS 2045..205E:ON 205F:WS 2060..2065:BN 2066:LRI
2067:RLI 2068:FSI 2069:PDI 206A..206F:BN 2070:EN 2074..2079:EN 207A..207B:ES 207C..207E:ON
2080..2089:EN 208A..208B:ES 208C..208E:ON 20A0..20CF:ET 20D0..20F0:NSM 2100..2101:ON 2103..2106:ON
2108..2109:ON 2114:ON 2116..2118:ON 211E..2123:ON 2125:ON 2127:ON 2129:ON 212E:ET 213A..213B:ON
2140..2144:ON 214A..214D:ON 2150..215F:ON 2189..218B:ON 2190..2211:ON 2212:ES 2213:ET 2214..2335:ON
237B..2394:ON 2396..2429:ON 2440..244A:ON 2460..2487:ON 2488..249B:EN 24EA..26AB:ON 26AD..27FF:ON
2900..2B73:ON 2B76..2BFF:ON 2CE5..2CEA:ON 2CEF..2CF1:NSM 2CF9..2CFF:ON 2D7F:NSM 2DE0..2DFF:NSM
2E00..2E5D:ON 2E80..2E99:ON 2E9B..2EF3:ON 2F00..2FD5:ON 2FF0..2FFF:ON 3000:WS 3001..3004:ON
3008..3020:ON 302A..302D:NSM 3030:ON 3036..3037:ON 303D..303F:ON 3099..309A:NSM 309B..309C:ON
30A0:ON 30FB:ON 31C0..31E5:ON 31EF:ON 321D..321E:ON 3250..325F:ON 327C..327E:ON 32B1..32BF:ON
32CC..32CF:ON 3377..337A:ON 33DE..33DF:ON 33FF:ON 4DC0..4DFF:ON A490..A4C6:ON A60D..A60F:ON
A66F..A672:NSM A673:ON A674..A67D:NSM A67E..A67F:ON A69E..A69F:NSM A6F0..A6F1:NSM A700..A721:ON
A788:ON A802:NSM A806:NSM A80B:NSM A825..A826:NSM A828..A82B:ON A82C:NSM A838..A839:ET A874..A877:ON
A8C4..A8C5:NSM A8E0..A8F1:NSM A8FF:NSM A926..A92D:NSM A947..A951:NSM A980..A982:NSM A9B3:NSM
A9B6..A9B9:NSM A9BC..A9BD:NSM A9E5:NSM AA29..AA2E:NSM AA31..AA32:NSM AA35..AA36:NSM AA43:NSM
AA4C:NSM AA7C:NSM AAB0:NSM AAB2..AAB4:NSM AAB7..AAB8:NSM AABE..AABF:NSM AAC1:NSM AAEC..AAED:NSM
AAF6:NSM AB6A..AB6B:ON ABE5:NSM ABE8:NSM ABED:NSM FB1D:R FB1E:NSM FB1F..FB28:R FB29:ES FB2A..FB4F:R
FB50..FBC2:AL FBC3..FBD2:ON FBD3..FD3D:AL FD3E..FD4F:ON FD50..FD8F:AL FD90..FD91:ON FD92..FDC7:AL
FDC8..FDCF:ON FDD0..FDEF:BN FDF0..FDFC:AL FDFD..FDFF:ON FE00..FE0F:NSM FE10..FE19:ON FE20..FE2F:NSM
FE30..FE4F:ON FE50:CS FE51:ON FE52:CS FE54:ON FE55:CS FE56..FE5E:ON FE5F:ET FE60..FE61:ON
FE62..FE63:ES FE64..FE66:ON FE68:ON FE69..FE6A:ET FE6B:ON FE70..FEFE:AL FEFF:BN FF01..FF02:ON
FF03..FF05:ET FF06..FF0A:ON FF0B:ES FF0C:CS FF0D:ES FF0E..FF0F:CS FF10..FF19:EN FF1A:CS
FF1B..FF20:ON FF3B..FF40:ON FF5B..FF65:ON FFE0..FFE1:ET FFE2..FFE4:ON FFE5..FFE6:ET FFE8..FFEE:ON
FFF0..FFF8:BN FFF9..FFFD:ON FFFE..FFFF:BN 10101:ON 10140..1018C:ON 10190..1019C:ON 101A0:ON
101FD:NSM 102E0:NSM 102E1..102FB:EN 10376..1037A:NSM 10800..1091E:R 1091F:ON 10920..10A00:R
10A01..10A03:NSM 10A04:R 10A05..10A06:NSM 10A07..10A0B:R 10A0C..10A0F:NSM 10A10..10A37:R
10A38..10A3A:NSM 10A3B..10A3E:R 10A3F:NSM 10A40..10AE4:R 10AE5..10AE6:NSM 10AE7..10B38:R
10B39..10B3F:ON 10B40..10CFF:R 10D00..10D23:AL 10D24..10D27:NSM 10D28..10D2F:AL 10D30..10D39:AN
10D3A..10D3F:AL 10D40..10D49:AN 10D4A..10D68:R 10D69..10D6D:NSM 10D6E:ON 10D6F..10E5F:R
10E60..10E7E:AN 10E7F..10EAA:R 10EAB..10EAC:NSM 10EAD..10EBF:R 10EC0..10ECF:AL 10ED0..10ED8:ON
10ED9..10EF9:AL 10EFA..10EFF:NSM 10F00..10F2F:R 10F30..10F45:AL 10F46..10F50:NSM 10F51..10F6F:AL
10F70..10F81:R 10F82..10F85:NSM 10F86..10FFF:R 11001:NSM 11038..11046:NSM 11052..11065:ON 11070:NSM
11073..11074:NSM 1107F..11081:NSM 110B3..110B6:NSM 110B9..110BA:NSM 110C2:NSM 11100..11102:NSM
11127..1112B:NSM 1112D..11134:NSM 11173:NSM 11180..11181:NSM 111B6..111BE:NSM 111C9..111CC:NSM
111CF:NSM 1122F..11231:NSM 11234:NSM 11236..11237:NSM 1123E:NSM 11241:NSM 112DF:NSM 112E3..112EA:NSM
11300..11301:NSM 1133B..1133C:NSM 11340:NSM 11366..1136C:NSM 11370..11374:NSM 113BB..113C0:NSM
113CE:NSM 113D0:NSM 113D2:NSM 113E1..113E2:NSM 11438..1143F:NSM 11442..11444:NSM 11446:NSM 1145E:NSM
114B3..114B8:NSM 114BA:NSM 114BF..114C0:NSM 114C2..114C3:NSM 115B2..115B5:NSM 115BC..115BD:NSM
115BF..115C0:NSM 115DC..115DD:NSM 11633..1163A:NSM 1163D:NSM 1163F..11640:NSM 11660..1166C:ON
116AB:NSM 116AD:NSM 116B0..116B5:NSM 116B7:NSM 1171D:NSM 1171F:NSM 11722..11725:NSM 11727..1172B:NSM
1182F..11837:NSM 11839..1183A:NSM 1193B..1193C:NSM 1193E:NSM 11943:NSM 119D4..119D7:NSM
119DA..119DB:NSM 119E0:NSM 11A01..11A06:NSM 11A09..11A0A:NSM 11A33..11A38:NSM 11A3B..11A3E:NSM
11A47:NSM 11A51..11A56:NSM 11A59..11A5B:NSM 11A8A..11A96:NSM 11A98..11A99:NSM 11B60:NSM
11B62..11B64:NSM 11B66:NSM 11C30..11C36:NSM 11C38..11C3D:NSM 11C92..11CA7:NSM 11CAA..11CB0:NSM
11CB2..11CB3:NSM 11CB5..11CB6:NSM 11D31..11D36:NSM 11D3A:NSM 11D3C..11D3D:NSM 11D3F..11D45:NSM
11D47:NSM 11D90..11D91:NSM 11D95:NSM 11D97:NSM 11EF3..11EF4:NSM 11F00..11F01:NSM 11F36..11F3A:NSM
11F40:NSM 11F42:NSM 11F5A:NSM 11FD5..11FDC:ON 11FDD..11FE0:ET 11FE1..11FF1:ON 13440:NSM
13447..13455:NSM 1611E..16129:NSM 1612D..1612F:NSM 16AF0..16AF4:NSM 16B30..16B36:NSM 16F4F:NSM
16F8F..16F92:NSM 16FE2:ON 16FE4:NSM 1BC9D..1BC9E:NSM 1BCA0..1BCA3:BN 1CC00..1CCD5:ON 1CCF0..1CCF9:EN
1CCFA..1CCFC:ON 1CD00..1CEB3:ON 1CEBA..1CED0:ON 1CEE0..1CEF0:ON 1CF00..1CF2D:NSM 1CF30..1CF46:NSM
1D167..1D169:NSM 1D173..1D17A:BN 1D17B..1D182:NSM 1D185..1D18B:NSM 1D1AA..1D1AD:NSM 1D1E9..1D1EA:ON
1D200..1D241:ON 1D242..1D244:NSM 1D245:ON 1D300..1D356:ON 1D6C1:ON 1D6DB:ON 1D6FB:ON 1D715:ON
1D735:ON 1D74F:ON 1D76F:ON 1D789:ON 1D7A9:ON 1D7C3:ON 1D7CE..1D7FF:EN 1DA00..1DA36:NSM
1DA3B..1DA6C:NSM 1DA75:NSM 1DA84:NSM 1DA9B..1DA9F:NSM 1DAA1..1DAAF:NSM 1E000..1E006:NSM
1E008..1E018:NSM 1E01B..1E021:NSM 1E023..1E024:NSM 1E026..1E02A:NSM 1E08F:NSM 1E130..1E136:NSM
1E2AE:NSM 1E2EC..1E2EF:NSM 1E2FF:ET 1E4EC..1E4EF:NSM 1E5EE..1E5EF:NSM 1E6E3:NSM 1E6E6:NSM
1E6EE..1E6EF:NSM 1E6F5:NSM 1E800..1E8CF:R 1E8D0..1E8D6:NSM 1E8D7..1E943:R 1E944..1E94A:NSM
1E94B..1EC6F:R 1EC70..1ECBF:AL 1ECC0..1ECFF:R 1ED00..1ED4F:AL 1ED50..1EDFF:R 1EE00..1EEEF:AL
1EEF0..1EEF1:ON 1EEF2..1EEFF:AL 1EF00..1EFFF:R 1F000..1F02B:ON 1F030..1F093:ON 1F0A0..1F0AE:ON
1F0B1..1F0BF:ON 1F0C1..1F0CF:ON 1F0D1..1F0F5:ON 1F100..1F10A:EN 1F10B..1F10F:ON 1F12F:ON
1F16A..1F16F:ON 1F1AD:ON 1F260..1F265:ON 1F300..1F6D8:ON 1F6DC..1F6EC:ON 1F6F0..1F6FC:ON
1F700..1F7D9:ON 1F7E0..1F7EB:ON 1F7F0:ON 1F800..1F80B:ON 1F810..1F847:ON 1F850..1F859:ON
1F860..1F887:ON 1F890..1F8AD:ON 1F8B0..1F8BB:ON 1F8C0..1F8C1:ON 1F8D0..1F8D8:ON 1F900..1FA57:ON
1FA60..1FA6D:ON 1FA70..1FA7C:ON 1FA80..1FA8A:ON 1FA8E..1FAC6:ON 1FAC8:ON 1FACD..1FADC:ON
1FADF..1FAEA:ON 1FAEF..1FAF8:ON 1FB00..1FB92:ON 1FB94..1FBEF:ON 1FBF0..1FBF9:EN 1FBFA:ON
1FFFE..1FFFF:BN 2FFFE..2FFFF:BN 3FFFE..3FFFF:BN 4FFFE..4FFFF:BN 5FFFE..5FFFF:BN 6FFFE..6FFFF:BN
7FFFE..7FFFF:BN 8FFFE..8FFFF:BN 9FFFE..9FFFF:BN AFFFE..AFFFF:BN BFFFE..BFFFF:BN CFFFE..CFFFF:BN
DFFFE..E00FF:BN E0100..E01EF:NSM E01F0..E0FFF:BN EFFFE..EFFFF:BN FFFFE..FFFFF:BN 10FFFE..10FFFF:BN"

/-- Joining types other than `U` and `C`. -/
def joiningText : String := "AD:T 300..36F:T 483..489:T 591..5BD:T 5BF:T 5C1..5C2:T 5C4..5C5:T 5C7:T
610..61A:T 61C:T 620:D 622..625:R 626:D 627:R 628:D 629:R 62A..62E:D 62F..632:R 633..63F:D
641..647:D 648:R 649..64A:D 64B..65F:T 66E..66F:D 670:T 671..673:R 675..677:R 678..687:D 688..699:R
69A..6BF:D 6C0:R 6C1..6C2:D 6C3..6CB:R 6CC:D 6CD:R 6CE:D 6CF:R 6D0..6D1:D 6D2..6D3:R 6D5:R
6D6..6DC:T 6DF..6E4:T 6E7..6E8:T 6EA..6ED:T 6EE..6EF:R 6FA..6FC:D 6FF:D 70F:T 710:R 711:T 712..714:D
715..719:R 71A..71D:D 71E:R 71F..727:D 728:R 729:D 72A:R 72B:D 72C:R 72D..72E:D 72F:R 730..74A:T
74D:R 74E..758:D 759..75B:R 75C..76A:D 76B..76C:R 76D..770:D 771:R 772:D 773..774:R 775..777:D
778..779:R 77A..77F:D 7A6..7B0:T 7CA..7EA:D 7EB..7F3:T 7FD:T 816..819:T 81B..823:T 825..827:T
829..82D:T 840:R 841..845:D 846..847:R 848:D 849:R 84A..853:D 854:R 855:D 856..858:R 859..85B:T
860:D 862..865:D 867:R 868:D 869..86A:R 870..882:R 886:D 889..88D:D 88E:R 88F:D 897..89F:T
8A0..8A9:D 8AA..8AC:R 8AE:R 8AF..8B0:D 8B1..8B2:R 8B3..8B8:D 8B9:R 8BA..8C8:D 8CA..8E1:T 8E3..902:T
93A:T 93C:T 941..948:T 94D:T 951..957:T 962..963:T 981:T 9BC:T 9C1..9C4:T 9CD:T 9E2..9E3:T 9FE:T
A01..A02:T A3C:T A41..A42:T A47..A48:T A4B..A4D:T A51:T A70..A71:T A75:T A81..A82:T ABC:T AC1..AC5:T
AC7..AC8:T ACD:T AE2..AE3:T AFA..AFF:T B01:T B3C:T B3F:T B41..B44:T B4D:T B55..B56:T B62..B63:T
B82:T BC0:T BCD:T C00:T C04:T C3C:T C3E..C40:T C46..C48:T C4A..C4D:T C55..C56:T C62..C63:T C81:T
CBC:T CBF:T CC6:T CCC..CCD:T CE2..CE3:T D00..D01:T D3B..D3C:T D41..D44:T D4D:T D62..D63:T D81:T
DCA:T DD2..DD4:T DD6:T E31:T E34..E3A:T E47..E4E:T EB1:T EB4..EBC:T EC8..ECE:T F18..F19:T F35:T
F37:T F39:T F71..F7E:T F80..F84:T F86..F87:T F8D..F97:T F99..FBC:T FC6:T 102D..1030:T 1032..1037:T
1039..103A:T 103D..103E:T 1058..1059:T 105E..1060:T 1071..1074:T 1082:T 1085..1086:T 108D:T 109D:T
135D..135F:T 1712..1714:T 1732..1733:T 1752..1753:T 1772..1773:T 17B4..17B5:T 17B7..17BD:T 17C6:T
17C9..17D3:T 17DD:T 1807:D 180B..180D:T 180F:T 1820..1878:D 1885..1886:T 1887..18A8:D 18A9:T 18AA:D
1920..1922:T 1927..1928:T 1932:T 1939..193B:T 1A17..1A18:T 1A1B:T 1A56:T 1A58..1A5E:T 1A60:T 1A62:T
1A65..1A6C:T 1A73..1A7C:T 1A7F:T 1AB0..1ADD:T 1AE0..1AEB:T 1B00..1B03:T 1B34:T 1B36..1B3A:T 1B3C:T
1B42:T 1B6B..1B73:T 1B80..1B81:T 1BA2..1BA5:T 1BA8..1BA9:T 1BAB..1BAD:T 1BE6:T 1BE8..1BE9:T 1BED:T
1BEF..1BF1:T 1C2C..1C33:T 1C36..1C37:T 1CD0..1CD2:T 1CD4..1CE0:T 1CE2..1CE8:T 1CED:T 1CF4:T
1CF8..1CF9:T 1DC0..1DFF:T 200B:T 200E..200F:T 202A..202E:T 2060..2064:T 206A..206F:T 20D0..20F0:T
2CEF..2CF1:T 2D7F:T 2DE0..2DFF:T 302A..302D:T 3099..309A:T A66F..A672:T A674..A67D:T A69E..A69F:T
A6F0..A6F1:T A802:T A806:T A80B:T A825..A826:T A82C:T A840..A871:D A872:L A8C4..A8C5:T A8E0..A8F1:T
A8FF:T A926..A92D:T A947..A951:T A980..A982:T A9B3:T A9B6..A9B9:T A9BC..A9BD:T A9E5:T AA29..AA2E:T
AA31..AA32:T AA35..AA36:T AA43:T AA4C:T AA7C:T AAB0:T AAB2..AAB4:T AAB7..AAB8:T AABE..AABF:T AAC1:T
AAEC..AAED:T AAF6:T ABE5:T ABE8:T ABED:T FB1E:T FE00..FE0F:T FE20..FE2F:T FEFF:T FFF9..FFFB:T
101FD:T 102E0:T 10376..1037A:T 10A01..10A03:T 10A05..10A06:T 10A0C..10A0F:T 10A38..10A3A:T 10A3F:T
10AC0..10AC4:D 10AC5:R 10AC7:R 10AC9..10ACA:R 10ACD:L 10ACE..10AD2:R 10AD3..10AD6:D 10AD7:L
10AD8..10ADC:D 10ADD:R 10ADE..10AE0:D 10AE1:R 10AE4:R 10AE5..10AE6:T 10AEB..10AEE:D 10AEF:R 10B80:D
10B81:R 10B82:D 10B83..10B85:R 10B86..10B88:D 10B89:R 10B8A..10B8B:D 10B8C:R 10B8D:D 10B8E..10B8F:R
10B90:D 10B91:R 10BA9..10BAC:R 10BAD..10BAE:D 10D00:L 10D01..10D21:D 10D22:R 10D23:D 10D24..10D27:T
10D69..10D6D:T 10EAB..10EAC:T 10EC2:R 10EC3..10EC4:D 10EC6..10EC7:D 10EFA..10EFF:T 10F30..10F32:D
10F33:R 10F34..10F44:D 10F46..10F50:T 10F51..10F53:D 10F54:R 10F70..10F73:D 10F74..10F75:R
10F76..10F81:D 10F82..10F85:T 10FB0:D 10FB2..10FB3:D 10FB4..10FB6:R 10FB8:D 10FB9..10FBA:R
10FBB..10FBC:D 10FBD:R 10FBE..10FBF:D 10FC1:D 10FC2..10FC3:R 10FC4:D 10FC9:R 10FCA:D 10FCB:L 11001:T
11038..11046:T 11070:T 11073..11074:T 1107F..11081:T 110B3..110B6:T 110B9..110BA:T 110C2:T
11100..11102:T 11127..1112B:T 1112D..11134:T 11173:T 11180..11181:T 111B6..111BE:T 111C9..111CC:T
111CF:T 1122F..11231:T 11234:T 11236..11237:T 1123E:T 11241:T 112DF:T 112E3..112EA:T 11300..11301:T
1133B..1133C:T 11340:T 11366..1136C:T 11370..11374:T 113BB..113C0:T 113CE:T 113D0:T 113D2:T
113E1..113E2:T 11438..1143F:T 11442..11444:T 11446:T 1145E:T 114B3..114B8:T 114BA:T 114BF..114C0:T
114C2..114C3:T 115B2..115B5:T 115BC..115BD:T 115BF..115C0:T 115DC..115DD:T 11633..1163A:T 1163D:T
1163F..11640:T 116AB:T 116AD:T 116B0..116B5:T 116B7:T 1171D:T 1171F:T 11722..11725:T 11727..1172B:T
1182F..11837:T 11839..1183A:T 1193B..1193C:T 1193E:T 11943:T 119D4..119D7:T 119DA..119DB:T 119E0:T
11A01..11A0A:T 11A33..11A38:T 11A3B..11A3E:T 11A47:T 11A51..11A56:T 11A59..11A5B:T 11A8A..11A96:T
11A98..11A99:T 11B60:T 11B62..11B64:T 11B66:T 11C30..11C36:T 11C38..11C3D:T 11C3F:T 11C92..11CA7:T
11CAA..11CB0:T 11CB2..11CB3:T 11CB5..11CB6:T 11D31..11D36:T 11D3A:T 11D3C..11D3D:T 11D3F..11D45:T
11D47:T 11D90..11D91:T 11D95:T 11D97:T 11EF3..11EF4:T 11F00..11F01:T 11F36..11F3A:T 11F40:T 11F42:T
11F5A:T 13430..13440:T 13447..13455:T 1611E..16129:T 1612D..1612F:T 16AF0..16AF4:T 16B30..16B36:T
16F4F:T 16F8F..16F92:T 16FE4:T 1BC9D..1BC9E:T 1BCA0..1BCA3:T 1CF00..1CF2D:T 1CF30..1CF46:T
1D167..1D169:T 1D173..1D182:T 1D185..1D18B:T 1D1AA..1D1AD:T 1D242..1D244:T 1DA00..1DA36:T
1DA3B..1DA6C:T 1DA75:T 1DA84:T 1DA9B..1DA9F:T 1DAA1..1DAAF:T 1E000..1E006:T 1E008..1E018:T
1E01B..1E021:T 1E023..1E024:T 1E026..1E02A:T 1E08F:T 1E130..1E136:T 1E2AE:T 1E2EC..1E2EF:T
1E4EC..1E4EF:T 1E5EE..1E5EF:T 1E6E3:T 1E6E6:T 1E6EE..1E6EF:T 1E6F5:T 1E8D0..1E8D6:T 1E900..1E943:D
1E944..1E94B:T E0001:T E0020..E007F:T E0100..E01EF:T"

/-- Controls, formats, unassigned and private characters, separators other than the blank, and
whatever extends the grapheme before it. -/
def hiddenText : String := "0..1F 7F..A0 AD 300..36F 378..379 380..383 38B 38D 3A2 483..489 530
557..558 58B..58C 590..5BD 5BF 5C1..5C2 5C4..5C5 5C7..5CF 5EB..5EE 5F5..605 610..61A 61C 64B..65F
670 6D6..6DD 6DF..6E4 6E7..6E8 6EA..6ED 70E..70F 711 730..74C 7A6..7B0 7B2..7BF 7EB..7F3 7FB..7FD
816..819 81B..823 825..827 829..82F 83F 859..85D 85F 86B..86F 890..89F 8CA..902 93A 93C 941..948 94D
951..957 962..963 981 984 98D..98E 991..992 9A9 9B1 9B3..9B5 9BA..9BC 9BE 9C1..9C6 9C9..9CA 9CD
9CF..9DB 9DE 9E2..9E5 9FE..A02 A04 A0B..A0E A11..A12 A29 A31 A34 A37 A3A..A3D A41..A58 A5D A5F..A65
A70..A71 A75 A77..A82 A84 A8E A92 AA9 AB1 AB4 ABA..ABC AC1..AC8 ACA ACD..ACF AD1..ADF AE2..AE5
AF2..AF8 AFA..B01 B04 B0D..B0E B11..B12 B29 B31 B34 B3A..B3C B3E..B3F B41..B46 B49..B4A B4D..B5B B5E
B62..B65 B78..B82 B84 B8B..B8D B91 B96..B98 B9B B9D BA0..BA2 BA5..BA7 BAB..BAD BBA..BBE BC0 BC3..BC5
BC9 BCD..BCF BD1..BE5 BFB..C00 C04 C0D C11 C29 C3A..C3C C3E..C40 C45..C57 C5B C5E..C5F C62..C65
C70..C76 C81 C8D C91 CA9 CB4 CBA..CBC CBF..CC0 CC2 CC5..CDB CDF CE2..CE5 CF0 CF4..D01 D0D D11
D3B..D3C D3E D41..D45 D49 D4D D50..D53 D57 D62..D65 D80..D81 D84 D97..D99 DB2 DBC DBE..DBF DC7..DCF
DD2..DD7 DDF..DE5 DF0..DF1 DF5..E00 E31 E34..E3E E47..E4E E5C..E80 E83 E85 E8B EA4 EA6 EB1 EB4..EBC
EBE..EBF EC5 EC7..ECF EDA..EDB EE0..EFF F18..F19 F35 F37 F39 F48 F6D..F7E F80..F84 F86..F87 F8D..FBD
FC6 FCD FDB..FFF 102D..1030 1032..1037 1039..103A 103D..103E 1058..1059 105E..1060 1071..1074 1082
1085..1086 108D 109D 10C6 10C8..10CC 10CE..10CF 1249 124E..124F 1257 1259 125E..125F 1289 128E..128F
12B1 12B6..12B7 12BF 12C1 12C6..12C7 12D7 1311 1316..1317 135B..135F 137D..137F 139A..139F
13F6..13F7 13FE..13FF 1680 169D..169F 16F9..16FF 1712..171E 1732..1734 1737..173F 1752..175F 176D
1771..177F 17B4..17B5 17B7..17BD 17C6 17C9..17D3 17DD..17DF 17EA..17EF 17FA..17FF 180B..180F
181A..181F 1879..187F 1885..1886 18A9 18AB..18AF 18F6..18FF 191F..1922 1927..1928 192C..192F 1932
1939..193F 1941..1943 196E..196F 1975..197F 19AC..19AF 19CA..19CF 19DB..19DD 1A17..1A18 1A1B..1A1D
1A56 1A58..1A60 1A62 1A65..1A6C 1A73..1A7F 1A8A..1A8F 1A9A..1A9F 1AAE..1B03 1B34..1B3D 1B42..1B44
1B4D 1B6B..1B73 1B80..1B81 1BA2..1BA5 1BA8..1BAD 1BE6 1BE8..1BE9 1BED 1BEF..1BFB 1C2C..1C33
1C36..1C3A 1C4A..1C4C 1C8B..1C8F 1CBB..1CBC 1CC8..1CD2 1CD4..1CE0 1CE2..1CE8 1CED 1CF4 1CF8..1CF9
1CFB..1CFF 1DC0..1DFF 1F16..1F17 1F1E..1F1F 1F46..1F47 1F4E..1F4F 1F58 1F5A 1F5C 1F5E 1F7E..1F7F
1FB5 1FC5 1FD4..1FD5 1FDC 1FF0..1FF1 1FF5 1FFF..200F 2028..202F 205F..206F 2072..2073 208F
209D..209F 20C2..20FF 218C..218F 242A..243F 244B..245F 2B74..2B75 2CEF..2CF1 2CF4..2CF8 2D26
2D28..2D2C 2D2E..2D2F 2D68..2D6E 2D71..2D7F 2D97..2D9F 2DA7 2DAF 2DB7 2DBF 2DC7 2DCF 2DD7 2DDF..2DFF
2E5E..2E7F 2E9A 2EF4..2EFF 2FD6..2FEF 3000 302A..302F 3040 3097..309A 3100..3104 3130 318F
31E6..31EE 321F A48D..A48F A4C7..A4CF A62C..A63F A66F..A672 A674..A67D A69E..A69F A6F0..A6F1
A6F8..A6FF A7DD..A7F0 A802 A806 A80B A825..A826 A82C..A82F A83A..A83F A878..A87F A8C4..A8CD
A8DA..A8F1 A8FF A926..A92D A947..A951 A953..A95E A97D..A982 A9B3 A9B6..A9B9 A9BC..A9BD A9C0 A9CE
A9DA..A9DD A9E5 A9FF AA29..AA2E AA31..AA32 AA35..AA3F AA43 AA4C AA4E..AA4F AA5A..AA5B AA7C AAB0
AAB2..AAB4 AAB7..AAB8 AABE..AABF AAC1 AAC3..AADA AAEC..AAED AAF6..AB00 AB07..AB08 AB0F..AB10
AB17..AB1F AB27 AB2F AB6C..AB6F ABE5 ABE8 ABED..ABEF ABFA..ABFF D7A4..D7AF D7C7..D7CA D7FC..F8FF
FA6E..FA6F FADA..FAFF FB07..FB12 FB18..FB1C FB1E FB37 FB3D FB3F FB42 FB45 FDD0..FDEF FE00..FE0F
FE1A..FE2F FE53 FE67 FE6C..FE6F FE75 FEFD..FF00 FF9E..FF9F FFBF..FFC1 FFC8..FFC9 FFD0..FFD1
FFD8..FFD9 FFDD..FFDF FFE7 FFEF..FFFB FFFE..FFFF 1000C 10027 1003B 1003E 1004E..1004F 1005E..1007F
100FB..100FF 10103..10106 10134..10136 1018F 1019D..1019F 101A1..101CF 101FD..1027F 1029D..1029F
102D1..102E0 102FC..102FF 10324..1032C 1034B..1034F 10376..1037F 1039E 103C4..103C7 103D6..103FF
1049E..1049F 104AA..104AF 104D4..104D7 104FC..104FF 10528..1052F 10564..1056E 1057B 1058B 10593
10596 105A2 105B2 105BA 105BD..105BF 105F4..105FF 10737..1073F 10756..1075F 10768..1077F 10786 107B1
107BB..107FF 10806..10807 10809 10836 10839..1083B 1083D..1083E 10856 1089F..108A6 108B0..108DF
108F3 108F6..108FA 1091C..1091E 1093A..1093E 1095A..1097F 109B8..109BB 109D0..109D1 10A01..10A0F
10A14 10A18 10A36..10A3F 10A49..10A4F 10A59..10A5F 10AA0..10ABF 10AE5..10AEA 10AF7..10AFF
10B36..10B38 10B56..10B57 10B73..10B77 10B92..10B98 10B9D..10BA8 10BB0..10BFF 10C49..10C7F
10CB3..10CBF 10CF3..10CF9 10D24..10D2F 10D3A..10D3F 10D66..10D6D 10D86..10D8D 10D90..10E5F 10E7F
10EAA..10EAC 10EAE..10EAF 10EB2..10EC1 10EC8..10ECF 10ED9..10EFF 10F28..10F2F 10F46..10F50
10F5A..10F6F 10F82..10F85 10F8A..10FAF 10FCC..10FDF 10FF7..10FFF 11001 11038..11046 1104E..11051
11070 11073..11074 11076..11081 110B3..110B6 110B9..110BA 110BD 110C2..110CF 110E9..110EF
110FA..11102 11127..1112B 1112D..11135 11148..1114F 11173 11177..11181 111B6..111BE 111C0
111C9..111CC 111CF 111E0 111F5..111FF 11212 1122F..11231 11234..11237 1123E 11241..1127F 11287 11289
1128E 1129E 112AA..112AF 112DF 112E3..112EF 112FA..11301 11304 1130D..1130E 11311..11312 11329 11331
11334 1133A..1133C 1133E 11340 11345..11346 11349..1134A 1134D..1134F 11351..1135C 11364..1137F
1138A 1138C..1138D 1138F 113B6 113B8 113BB..113C9 113CB 113CE..113D0 113D2 113D6 113D9..113FF
11438..1143F 11442..11444 11446 1145C 1145E 11462..1147F 114B0 114B3..114B8 114BA 114BD 114BF..114C0
114C2..114C3 114C8..114CF 114DA..1157F 115AF 115B2..115B7 115BC..115BD 115BF..115C0 115DC..115FF
11633..1163A 1163D 1163F..11640 11645..1164F 1165A..1165F 1166D..1167F 116AB 116AD 116B0..116B7
116BA..116BF 116CA..116CF 116E4..116FF 1171B..1171D 1171F 11722..11725 11727..1172F 11747..117FF
1182F..11837 11839..1183A 1183C..1189F 118F3..118FE 11907..11908 1190A..1190B 11914 11917 11930
11936 11939..1193E 11943 11947..1194F 1195A..1199F 119A8..119A9 119D4..119DB 119E0 119E5..119FF
11A01..11A0A 11A33..11A38 11A3B..11A3E 11A47..11A4F 11A51..11A56 11A59..11A5B 11A8A..11A96
11A98..11A99 11AA3..11AAF 11AF9..11AFF 11B0A..11B60 11B62..11B64 11B66 11B68..11BBF 11BE2..11BEF
11BFA..11BFF 11C09 11C30..11C3D 11C3F 11C46..11C4F 11C6D..11C6F 11C90..11CA8 11CAA..11CB0
11CB2..11CB3 11CB5..11CFF 11D07 11D0A 11D31..11D45 11D47..11D4F 11D5A..11D5F 11D66 11D69
11D8F..11D92 11D95 11D97 11D99..11D9F 11DAA..11DAF 11DDC..11DDF 11DEA..11EDF 11EF3..11EF4
11EF9..11F01 11F11 11F36..11F3D 11F40..11F42 11F5A..11FAF 11FB1..11FBF 11FF2..11FFE 1239A..123FF
1246F 12475..1247F 12544..12F8F 12FF3..12FFF 13430..13440 13447..1345F 143FB..143FF 14647..160FF
1611E..16129 1612D..1612F 1613A..167FF 16A39..16A3F 16A5F 16A6A..16A6D 16ABF 16ACA..16ACF
16AEE..16AF4 16AF6..16AFF 16B30..16B36 16B46..16B4F 16B5A 16B62 16B78..16B7C 16B90..16D3F
16D7A..16E3F 16E9B..16E9F 16EB9..16EBA 16ED4..16EFF 16F4B..16F4F 16F88..16F92 16FA0..16FDF
16FE4..16FF1 16FF7..16FFF 18CD6..18CFE 18D1F..18D7F 18DF3..1AFEF 1AFF4 1AFFC 1AFFF 1B123..1B131
1B133..1B14F 1B153..1B154 1B156..1B163 1B168..1B16F 1B2FC..1BBFF 1BC6B..1BC6F 1BC7D..1BC7F
1BC89..1BC8F 1BC9A..1BC9B 1BC9D..1BC9E 1BCA0..1CBFF 1CCFD..1CCFF 1CEB4..1CEB9 1CED1..1CEDF
1CEF1..1CF4F 1CFC4..1CFFF 1D0F6..1D0FF 1D127..1D128 1D165..1D169 1D16D..1D182 1D185..1D18B
1D1AA..1D1AD 1D1EB..1D1FF 1D242..1D244 1D246..1D2BF 1D2D4..1D2DF 1D2F4..1D2FF 1D357..1D35F
1D379..1D3FF 1D455 1D49D 1D4A0..1D4A1 1D4A3..1D4A4 1D4A7..1D4A8 1D4AD 1D4BA 1D4BC 1D4C4 1D506
1D50B..1D50C 1D515 1D51D 1D53A 1D53F 1D545 1D547..1D549 1D551 1D6A6..1D6A7 1D7CC..1D7CD 1DA00..1DA36
1DA3B..1DA6C 1DA75 1DA84 1DA8C..1DEFF 1DF1F..1DF24 1DF2B..1E02F 1E06E..1E0FF 1E12D..1E136
1E13E..1E13F 1E14A..1E14D 1E150..1E28F 1E2AE..1E2BF 1E2EC..1E2EF 1E2FA..1E2FE 1E300..1E4CF
1E4EC..1E4EF 1E4FA..1E5CF 1E5EE..1E5EF 1E5FB..1E5FE 1E600..1E6BF 1E6DF 1E6E3 1E6E6 1E6EE..1E6EF
1E6F5..1E6FD 1E700..1E7DF 1E7E7 1E7EC 1E7EF 1E7FF 1E8C5..1E8C6 1E8D0..1E8FF 1E944..1E94A
1E94C..1E94F 1E95A..1E95D 1E960..1EC70 1ECB5..1ED00 1ED3E..1EDFF 1EE04 1EE20 1EE23 1EE25..1EE26
1EE28 1EE33 1EE38 1EE3A 1EE3C..1EE41 1EE43..1EE46 1EE48 1EE4A 1EE4C 1EE50 1EE53 1EE55..1EE56 1EE58
1EE5A 1EE5C 1EE5E 1EE60 1EE63 1EE65..1EE66 1EE6B 1EE73 1EE78 1EE7D 1EE7F 1EE8A 1EE9C..1EEA0 1EEA4
1EEAA 1EEBC..1EEEF 1EEF2..1EFFF 1F02C..1F02F 1F094..1F09F 1F0AF..1F0B0 1F0C0 1F0D0 1F0F6..1F0FF
1F1AE..1F1E5 1F203..1F20F 1F23C..1F23F 1F249..1F24F 1F252..1F25F 1F266..1F2FF 1F6D9..1F6DB
1F6ED..1F6EF 1F6FD..1F6FF 1F7DA..1F7DF 1F7EC..1F7EF 1F7F1..1F7FF 1F80C..1F80F 1F848..1F84F
1F85A..1F85F 1F888..1F88F 1F8AE..1F8AF 1F8BC..1F8BF 1F8C2..1F8CF 1F8D9..1F8FF 1FA58..1FA5F
1FA6E..1FA6F 1FA7D..1FA7F 1FA8B..1FA8D 1FAC7 1FAC9..1FACC 1FADD..1FADE 1FAEB..1FAEE 1FAF9..1FAFF
1FB93 1FBFB..1FFFF 2A6E0..2A6FF 2B81E..2B81F 2CEAE..2CEAF 2EBE1..2EBEF 2EE5E..2F7FF 2FA1E..2FFFF
3134B..3134F 3347A..10FFFF"

def marks : Ranges := .ofText markText

def directions : Array (Span String) := Span.table (fun cs => String.ofList (cs.drop 1)) directionText

def joiningTypes : Array (Span String) := Span.table (fun cs => String.ofList (cs.drop 1)) joiningText

def hidden : Ranges := .ofText hiddenText

def isMark (c : Char) : Bool := marks.contains c

def direction (c : Char) : String := ((Span.find? directions c.toNat).map Span.value).getD "L"

def joiningType (c : Char) : String := ((Span.find? joiningTypes c.toNat).map Span.value).getD "U"

/-- A character that is shown by its number and not as it stands. -/
def isHidden (c : Char) : Bool :=
  if 0x20 ≤ c.toNat && c.toNat < 0x7F then false else hidden.contains c

end Tenancy.Unicode

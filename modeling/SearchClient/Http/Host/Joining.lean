set_option autoImplicit false
set_option maxRecDepth 4096

/-! # Joined letters

How letters of connected scripts join those beside them. -/

namespace SearchClient.Http.Host

/-- The sides on which a letter joins. -/
inductive Joining where
  | left
  | right
  | both
  /-- Letters join across it. -/
  | transparent
deriving DecidableEq

/-- The characters that join. -/
def joiningRuns : List (Nat × Nat × Joining) :=
  [(0xAD, 0xAD, .transparent), (0x300, 0x36F, .transparent), (0x483, 0x489, .transparent),
   (0x591, 0x5BD, .transparent), (0x5BF, 0x5BF, .transparent), (0x5C1, 0x5C2, .transparent),
   (0x5C4, 0x5C5, .transparent), (0x5C7, 0x5C7, .transparent), (0x610, 0x61A, .transparent),
   (0x61C, 0x61C, .transparent), (0x620, 0x620, .both), (0x622, 0x625, .right),
   (0x626, 0x626, .both), (0x627, 0x627, .right), (0x628, 0x628, .both), (0x629, 0x629, .right),
   (0x62A, 0x62E, .both), (0x62F, 0x632, .right), (0x633, 0x63F, .both), (0x641, 0x647, .both),
   (0x648, 0x648, .right), (0x649, 0x64A, .both), (0x64B, 0x65F, .transparent),
   (0x66E, 0x66F, .both), (0x670, 0x670, .transparent), (0x671, 0x673, .right),
   (0x675, 0x677, .right), (0x678, 0x687, .both), (0x688, 0x699, .right), (0x69A, 0x6BF, .both),
   (0x6C0, 0x6C0, .right), (0x6C1, 0x6C2, .both), (0x6C3, 0x6CB, .right), (0x6CC, 0x6CC, .both),
   (0x6CD, 0x6CD, .right), (0x6CE, 0x6CE, .both), (0x6CF, 0x6CF, .right), (0x6D0, 0x6D1, .both),
   (0x6D2, 0x6D3, .right), (0x6D5, 0x6D5, .right), (0x6D6, 0x6DC, .transparent),
   (0x6DF, 0x6E4, .transparent), (0x6E7, 0x6E8, .transparent), (0x6EA, 0x6ED, .transparent),
   (0x6EE, 0x6EF, .right), (0x6FA, 0x6FC, .both), (0x6FF, 0x6FF, .both),
   (0x70F, 0x70F, .transparent), (0x710, 0x710, .right), (0x711, 0x711, .transparent),
   (0x712, 0x714, .both), (0x715, 0x719, .right), (0x71A, 0x71D, .both), (0x71E, 0x71E, .right),
   (0x71F, 0x727, .both), (0x728, 0x728, .right), (0x729, 0x729, .both), (0x72A, 0x72A, .right),
   (0x72B, 0x72B, .both), (0x72C, 0x72C, .right), (0x72D, 0x72E, .both), (0x72F, 0x72F, .right),
   (0x730, 0x74A, .transparent), (0x74D, 0x74D, .right), (0x74E, 0x758, .both),
   (0x759, 0x75B, .right), (0x75C, 0x76A, .both), (0x76B, 0x76C, .right), (0x76D, 0x770, .both),
   (0x771, 0x771, .right), (0x772, 0x772, .both), (0x773, 0x774, .right), (0x775, 0x777, .both),
   (0x778, 0x779, .right), (0x77A, 0x77F, .both), (0x7A6, 0x7B0, .transparent),
   (0x7CA, 0x7EA, .both), (0x7EB, 0x7F3, .transparent), (0x7FD, 0x7FD, .transparent),
   (0x816, 0x819, .transparent), (0x81B, 0x823, .transparent), (0x825, 0x827, .transparent),
   (0x829, 0x82D, .transparent), (0x840, 0x840, .right), (0x841, 0x845, .both),
   (0x846, 0x847, .right), (0x848, 0x848, .both), (0x849, 0x849, .right), (0x84A, 0x853, .both),
   (0x854, 0x854, .right), (0x855, 0x855, .both), (0x856, 0x858, .right),
   (0x859, 0x85B, .transparent), (0x860, 0x860, .both), (0x862, 0x865, .both),
   (0x867, 0x867, .right), (0x868, 0x868, .both), (0x869, 0x86A, .right), (0x870, 0x882, .right),
   (0x886, 0x886, .both), (0x889, 0x88D, .both), (0x88E, 0x88E, .right), (0x88F, 0x88F, .both),
   (0x897, 0x89F, .transparent), (0x8A0, 0x8A9, .both), (0x8AA, 0x8AC, .right),
   (0x8AE, 0x8AE, .right), (0x8AF, 0x8B0, .both), (0x8B1, 0x8B2, .right), (0x8B3, 0x8B8, .both),
   (0x8B9, 0x8B9, .right), (0x8BA, 0x8C8, .both), (0x8CA, 0x8E1, .transparent),
   (0x8E3, 0x902, .transparent), (0x93A, 0x93A, .transparent), (0x93C, 0x93C, .transparent),
   (0x941, 0x948, .transparent), (0x94D, 0x94D, .transparent), (0x951, 0x957, .transparent),
   (0x962, 0x963, .transparent), (0x981, 0x981, .transparent), (0x9BC, 0x9BC, .transparent),
   (0x9C1, 0x9C4, .transparent), (0x9CD, 0x9CD, .transparent), (0x9E2, 0x9E3, .transparent),
   (0x9FE, 0x9FE, .transparent), (0xA01, 0xA02, .transparent), (0xA3C, 0xA3C, .transparent),
   (0xA41, 0xA42, .transparent), (0xA47, 0xA48, .transparent), (0xA4B, 0xA4D, .transparent),
   (0xA51, 0xA51, .transparent), (0xA70, 0xA71, .transparent), (0xA75, 0xA75, .transparent),
   (0xA81, 0xA82, .transparent), (0xABC, 0xABC, .transparent), (0xAC1, 0xAC5, .transparent),
   (0xAC7, 0xAC8, .transparent), (0xACD, 0xACD, .transparent), (0xAE2, 0xAE3, .transparent),
   (0xAFA, 0xAFF, .transparent), (0xB01, 0xB01, .transparent), (0xB3C, 0xB3C, .transparent),
   (0xB3F, 0xB3F, .transparent), (0xB41, 0xB44, .transparent), (0xB4D, 0xB4D, .transparent),
   (0xB55, 0xB56, .transparent), (0xB62, 0xB63, .transparent), (0xB82, 0xB82, .transparent),
   (0xBC0, 0xBC0, .transparent), (0xBCD, 0xBCD, .transparent), (0xC00, 0xC00, .transparent),
   (0xC04, 0xC04, .transparent), (0xC3C, 0xC3C, .transparent), (0xC3E, 0xC40, .transparent),
   (0xC46, 0xC48, .transparent), (0xC4A, 0xC4D, .transparent), (0xC55, 0xC56, .transparent),
   (0xC62, 0xC63, .transparent), (0xC81, 0xC81, .transparent), (0xCBC, 0xCBC, .transparent),
   (0xCBF, 0xCBF, .transparent), (0xCC6, 0xCC6, .transparent), (0xCCC, 0xCCD, .transparent),
   (0xCE2, 0xCE3, .transparent), (0xD00, 0xD01, .transparent), (0xD3B, 0xD3C, .transparent),
   (0xD41, 0xD44, .transparent), (0xD4D, 0xD4D, .transparent), (0xD62, 0xD63, .transparent),
   (0xD81, 0xD81, .transparent), (0xDCA, 0xDCA, .transparent), (0xDD2, 0xDD4, .transparent),
   (0xDD6, 0xDD6, .transparent), (0xE31, 0xE31, .transparent), (0xE34, 0xE3A, .transparent),
   (0xE47, 0xE4E, .transparent), (0xEB1, 0xEB1, .transparent), (0xEB4, 0xEBC, .transparent),
   (0xEC8, 0xECE, .transparent), (0xF18, 0xF19, .transparent), (0xF35, 0xF35, .transparent),
   (0xF37, 0xF37, .transparent), (0xF39, 0xF39, .transparent), (0xF71, 0xF7E, .transparent),
   (0xF80, 0xF84, .transparent), (0xF86, 0xF87, .transparent), (0xF8D, 0xF97, .transparent),
   (0xF99, 0xFBC, .transparent), (0xFC6, 0xFC6, .transparent), (0x102D, 0x1030, .transparent),
   (0x1032, 0x1037, .transparent), (0x1039, 0x103A, .transparent), (0x103D, 0x103E, .transparent),
   (0x1058, 0x1059, .transparent), (0x105E, 0x1060, .transparent), (0x1071, 0x1074, .transparent),
   (0x1082, 0x1082, .transparent), (0x1085, 0x1086, .transparent), (0x108D, 0x108D, .transparent),
   (0x109D, 0x109D, .transparent), (0x135D, 0x135F, .transparent), (0x1712, 0x1714, .transparent),
   (0x1732, 0x1733, .transparent), (0x1752, 0x1753, .transparent), (0x1772, 0x1773, .transparent),
   (0x17B4, 0x17B5, .transparent), (0x17B7, 0x17BD, .transparent), (0x17C6, 0x17C6, .transparent),
   (0x17C9, 0x17D3, .transparent), (0x17DD, 0x17DD, .transparent), (0x1807, 0x1807, .both),
   (0x180B, 0x180D, .transparent), (0x180F, 0x180F, .transparent), (0x1820, 0x1878, .both),
   (0x1885, 0x1886, .transparent), (0x1887, 0x18A8, .both), (0x18A9, 0x18A9, .transparent),
   (0x18AA, 0x18AA, .both), (0x1920, 0x1922, .transparent), (0x1927, 0x1928, .transparent),
   (0x1932, 0x1932, .transparent), (0x1939, 0x193B, .transparent), (0x1A17, 0x1A18, .transparent),
   (0x1A1B, 0x1A1B, .transparent), (0x1A56, 0x1A56, .transparent), (0x1A58, 0x1A5E, .transparent),
   (0x1A60, 0x1A60, .transparent), (0x1A62, 0x1A62, .transparent), (0x1A65, 0x1A6C, .transparent),
   (0x1A73, 0x1A7C, .transparent), (0x1A7F, 0x1A7F, .transparent), (0x1AB0, 0x1ADD, .transparent),
   (0x1AE0, 0x1AEB, .transparent), (0x1B00, 0x1B03, .transparent), (0x1B34, 0x1B34, .transparent),
   (0x1B36, 0x1B3A, .transparent), (0x1B3C, 0x1B3C, .transparent), (0x1B42, 0x1B42, .transparent),
   (0x1B6B, 0x1B73, .transparent), (0x1B80, 0x1B81, .transparent), (0x1BA2, 0x1BA5, .transparent),
   (0x1BA8, 0x1BA9, .transparent), (0x1BAB, 0x1BAD, .transparent), (0x1BE6, 0x1BE6, .transparent),
   (0x1BE8, 0x1BE9, .transparent), (0x1BED, 0x1BED, .transparent), (0x1BEF, 0x1BF1, .transparent),
   (0x1C2C, 0x1C33, .transparent), (0x1C36, 0x1C37, .transparent), (0x1CD0, 0x1CD2, .transparent),
   (0x1CD4, 0x1CE0, .transparent), (0x1CE2, 0x1CE8, .transparent), (0x1CED, 0x1CED, .transparent),
   (0x1CF4, 0x1CF4, .transparent), (0x1CF8, 0x1CF9, .transparent), (0x1DC0, 0x1DFF, .transparent),
   (0x200B, 0x200B, .transparent), (0x200E, 0x200F, .transparent), (0x202A, 0x202E, .transparent),
   (0x2060, 0x2064, .transparent), (0x206A, 0x206F, .transparent), (0x20D0, 0x20F0, .transparent),
   (0x2CEF, 0x2CF1, .transparent), (0x2D7F, 0x2D7F, .transparent), (0x2DE0, 0x2DFF, .transparent),
   (0x302A, 0x302D, .transparent), (0x3099, 0x309A, .transparent), (0xA66F, 0xA672, .transparent),
   (0xA674, 0xA67D, .transparent), (0xA69E, 0xA69F, .transparent), (0xA6F0, 0xA6F1, .transparent),
   (0xA802, 0xA802, .transparent), (0xA806, 0xA806, .transparent), (0xA80B, 0xA80B, .transparent),
   (0xA825, 0xA826, .transparent), (0xA82C, 0xA82C, .transparent), (0xA840, 0xA871, .both),
   (0xA872, 0xA872, .left), (0xA8C4, 0xA8C5, .transparent), (0xA8E0, 0xA8F1, .transparent),
   (0xA8FF, 0xA8FF, .transparent), (0xA926, 0xA92D, .transparent), (0xA947, 0xA951, .transparent),
   (0xA980, 0xA982, .transparent), (0xA9B3, 0xA9B3, .transparent), (0xA9B6, 0xA9B9, .transparent),
   (0xA9BC, 0xA9BD, .transparent), (0xA9E5, 0xA9E5, .transparent), (0xAA29, 0xAA2E, .transparent),
   (0xAA31, 0xAA32, .transparent), (0xAA35, 0xAA36, .transparent), (0xAA43, 0xAA43, .transparent),
   (0xAA4C, 0xAA4C, .transparent), (0xAA7C, 0xAA7C, .transparent), (0xAAB0, 0xAAB0, .transparent),
   (0xAAB2, 0xAAB4, .transparent), (0xAAB7, 0xAAB8, .transparent), (0xAABE, 0xAABF, .transparent),
   (0xAAC1, 0xAAC1, .transparent), (0xAAEC, 0xAAED, .transparent), (0xAAF6, 0xAAF6, .transparent),
   (0xABE5, 0xABE5, .transparent), (0xABE8, 0xABE8, .transparent), (0xABED, 0xABED, .transparent),
   (0xFB1E, 0xFB1E, .transparent), (0xFE00, 0xFE0F, .transparent), (0xFE20, 0xFE2F, .transparent),
   (0xFEFF, 0xFEFF, .transparent), (0xFFF9, 0xFFFB, .transparent), (0x101FD, 0x101FD, .transparent),
   (0x102E0, 0x102E0, .transparent), (0x10376, 0x1037A, .transparent),
   (0x10A01, 0x10A03, .transparent), (0x10A05, 0x10A06, .transparent),
   (0x10A0C, 0x10A0F, .transparent), (0x10A38, 0x10A3A, .transparent),
   (0x10A3F, 0x10A3F, .transparent), (0x10AC0, 0x10AC4, .both), (0x10AC5, 0x10AC5, .right),
   (0x10AC7, 0x10AC7, .right), (0x10AC9, 0x10ACA, .right), (0x10ACD, 0x10ACD, .left),
   (0x10ACE, 0x10AD2, .right), (0x10AD3, 0x10AD6, .both), (0x10AD7, 0x10AD7, .left),
   (0x10AD8, 0x10ADC, .both), (0x10ADD, 0x10ADD, .right), (0x10ADE, 0x10AE0, .both),
   (0x10AE1, 0x10AE1, .right), (0x10AE4, 0x10AE4, .right), (0x10AE5, 0x10AE6, .transparent),
   (0x10AEB, 0x10AEE, .both), (0x10AEF, 0x10AEF, .right), (0x10B80, 0x10B80, .both),
   (0x10B81, 0x10B81, .right), (0x10B82, 0x10B82, .both), (0x10B83, 0x10B85, .right),
   (0x10B86, 0x10B88, .both), (0x10B89, 0x10B89, .right), (0x10B8A, 0x10B8B, .both),
   (0x10B8C, 0x10B8C, .right), (0x10B8D, 0x10B8D, .both), (0x10B8E, 0x10B8F, .right),
   (0x10B90, 0x10B90, .both), (0x10B91, 0x10B91, .right), (0x10BA9, 0x10BAC, .right),
   (0x10BAD, 0x10BAE, .both), (0x10D00, 0x10D00, .left), (0x10D01, 0x10D21, .both),
   (0x10D22, 0x10D22, .right), (0x10D23, 0x10D23, .both), (0x10D24, 0x10D27, .transparent),
   (0x10D69, 0x10D6D, .transparent), (0x10EAB, 0x10EAC, .transparent), (0x10EC2, 0x10EC2, .right),
   (0x10EC3, 0x10EC4, .both), (0x10EC6, 0x10EC7, .both), (0x10EFA, 0x10EFF, .transparent),
   (0x10F30, 0x10F32, .both), (0x10F33, 0x10F33, .right), (0x10F34, 0x10F44, .both),
   (0x10F46, 0x10F50, .transparent), (0x10F51, 0x10F53, .both), (0x10F54, 0x10F54, .right),
   (0x10F70, 0x10F73, .both), (0x10F74, 0x10F75, .right), (0x10F76, 0x10F81, .both),
   (0x10F82, 0x10F85, .transparent), (0x10FB0, 0x10FB0, .both), (0x10FB2, 0x10FB3, .both),
   (0x10FB4, 0x10FB6, .right), (0x10FB8, 0x10FB8, .both), (0x10FB9, 0x10FBA, .right),
   (0x10FBB, 0x10FBC, .both), (0x10FBD, 0x10FBD, .right), (0x10FBE, 0x10FBF, .both),
   (0x10FC1, 0x10FC1, .both), (0x10FC2, 0x10FC3, .right), (0x10FC4, 0x10FC4, .both),
   (0x10FC9, 0x10FC9, .right), (0x10FCA, 0x10FCA, .both), (0x10FCB, 0x10FCB, .left),
   (0x11001, 0x11001, .transparent), (0x11038, 0x11046, .transparent),
   (0x11070, 0x11070, .transparent), (0x11073, 0x11074, .transparent),
   (0x1107F, 0x11081, .transparent), (0x110B3, 0x110B6, .transparent),
   (0x110B9, 0x110BA, .transparent), (0x110C2, 0x110C2, .transparent),
   (0x11100, 0x11102, .transparent), (0x11127, 0x1112B, .transparent),
   (0x1112D, 0x11134, .transparent), (0x11173, 0x11173, .transparent),
   (0x11180, 0x11181, .transparent), (0x111B6, 0x111BE, .transparent),
   (0x111C9, 0x111CC, .transparent), (0x111CF, 0x111CF, .transparent),
   (0x1122F, 0x11231, .transparent), (0x11234, 0x11234, .transparent),
   (0x11236, 0x11237, .transparent), (0x1123E, 0x1123E, .transparent),
   (0x11241, 0x11241, .transparent), (0x112DF, 0x112DF, .transparent),
   (0x112E3, 0x112EA, .transparent), (0x11300, 0x11301, .transparent),
   (0x1133B, 0x1133C, .transparent), (0x11340, 0x11340, .transparent),
   (0x11366, 0x1136C, .transparent), (0x11370, 0x11374, .transparent),
   (0x113BB, 0x113C0, .transparent), (0x113CE, 0x113CE, .transparent),
   (0x113D0, 0x113D0, .transparent), (0x113D2, 0x113D2, .transparent),
   (0x113E1, 0x113E2, .transparent), (0x11438, 0x1143F, .transparent),
   (0x11442, 0x11444, .transparent), (0x11446, 0x11446, .transparent),
   (0x1145E, 0x1145E, .transparent), (0x114B3, 0x114B8, .transparent),
   (0x114BA, 0x114BA, .transparent), (0x114BF, 0x114C0, .transparent),
   (0x114C2, 0x114C3, .transparent), (0x115B2, 0x115B5, .transparent),
   (0x115BC, 0x115BD, .transparent), (0x115BF, 0x115C0, .transparent),
   (0x115DC, 0x115DD, .transparent), (0x11633, 0x1163A, .transparent),
   (0x1163D, 0x1163D, .transparent), (0x1163F, 0x11640, .transparent),
   (0x116AB, 0x116AB, .transparent), (0x116AD, 0x116AD, .transparent),
   (0x116B0, 0x116B5, .transparent), (0x116B7, 0x116B7, .transparent),
   (0x1171D, 0x1171D, .transparent), (0x1171F, 0x1171F, .transparent),
   (0x11722, 0x11725, .transparent), (0x11727, 0x1172B, .transparent),
   (0x1182F, 0x11837, .transparent), (0x11839, 0x1183A, .transparent),
   (0x1193B, 0x1193C, .transparent), (0x1193E, 0x1193E, .transparent),
   (0x11943, 0x11943, .transparent), (0x119D4, 0x119D7, .transparent),
   (0x119DA, 0x119DB, .transparent), (0x119E0, 0x119E0, .transparent),
   (0x11A01, 0x11A0A, .transparent), (0x11A33, 0x11A38, .transparent),
   (0x11A3B, 0x11A3E, .transparent), (0x11A47, 0x11A47, .transparent),
   (0x11A51, 0x11A56, .transparent), (0x11A59, 0x11A5B, .transparent),
   (0x11A8A, 0x11A96, .transparent), (0x11A98, 0x11A99, .transparent),
   (0x11B60, 0x11B60, .transparent), (0x11B62, 0x11B64, .transparent),
   (0x11B66, 0x11B66, .transparent), (0x11C30, 0x11C36, .transparent),
   (0x11C38, 0x11C3D, .transparent), (0x11C3F, 0x11C3F, .transparent),
   (0x11C92, 0x11CA7, .transparent), (0x11CAA, 0x11CB0, .transparent),
   (0x11CB2, 0x11CB3, .transparent), (0x11CB5, 0x11CB6, .transparent),
   (0x11D31, 0x11D36, .transparent), (0x11D3A, 0x11D3A, .transparent),
   (0x11D3C, 0x11D3D, .transparent), (0x11D3F, 0x11D45, .transparent),
   (0x11D47, 0x11D47, .transparent), (0x11D90, 0x11D91, .transparent),
   (0x11D95, 0x11D95, .transparent), (0x11D97, 0x11D97, .transparent),
   (0x11EF3, 0x11EF4, .transparent), (0x11F00, 0x11F01, .transparent),
   (0x11F36, 0x11F3A, .transparent), (0x11F40, 0x11F40, .transparent),
   (0x11F42, 0x11F42, .transparent), (0x11F5A, 0x11F5A, .transparent),
   (0x13430, 0x13440, .transparent), (0x13447, 0x13455, .transparent),
   (0x1611E, 0x16129, .transparent), (0x1612D, 0x1612F, .transparent),
   (0x16AF0, 0x16AF4, .transparent), (0x16B30, 0x16B36, .transparent),
   (0x16F4F, 0x16F4F, .transparent), (0x16F8F, 0x16F92, .transparent),
   (0x16FE4, 0x16FE4, .transparent), (0x1BC9D, 0x1BC9E, .transparent),
   (0x1BCA0, 0x1BCA3, .transparent), (0x1CF00, 0x1CF2D, .transparent),
   (0x1CF30, 0x1CF46, .transparent), (0x1D167, 0x1D169, .transparent),
   (0x1D173, 0x1D182, .transparent), (0x1D185, 0x1D18B, .transparent),
   (0x1D1AA, 0x1D1AD, .transparent), (0x1D242, 0x1D244, .transparent),
   (0x1DA00, 0x1DA36, .transparent), (0x1DA3B, 0x1DA6C, .transparent),
   (0x1DA75, 0x1DA75, .transparent), (0x1DA84, 0x1DA84, .transparent),
   (0x1DA9B, 0x1DA9F, .transparent), (0x1DAA1, 0x1DAAF, .transparent),
   (0x1E000, 0x1E006, .transparent), (0x1E008, 0x1E018, .transparent),
   (0x1E01B, 0x1E021, .transparent), (0x1E023, 0x1E024, .transparent),
   (0x1E026, 0x1E02A, .transparent), (0x1E08F, 0x1E08F, .transparent),
   (0x1E130, 0x1E136, .transparent), (0x1E2AE, 0x1E2AE, .transparent),
   (0x1E2EC, 0x1E2EF, .transparent), (0x1E4EC, 0x1E4EF, .transparent),
   (0x1E5EE, 0x1E5EF, .transparent), (0x1E6E3, 0x1E6E3, .transparent),
   (0x1E6E6, 0x1E6E6, .transparent), (0x1E6EE, 0x1E6EF, .transparent),
   (0x1E6F5, 0x1E6F5, .transparent), (0x1E8D0, 0x1E8D6, .transparent), (0x1E900, 0x1E943, .both),
   (0x1E944, 0x1E94B, .transparent), (0xE0001, 0xE0001, .transparent),
   (0xE0020, 0xE007F, .transparent), (0xE0100, 0xE01EF, .transparent)]

/-- How a character joins, if it does. -/
def joiningOf? (n : Nat) : Option Joining :=
  (joiningRuns.find? fun (first, last, _) => first ≤ n && n ≤ last).map (·.2.2)

end SearchClient.Http.Host

/-
This file holds the capital letters beyond ASCII, and the classes that the final sigma needs.
-/

import Blocklist.Text.CodeTable

set_option maxRecDepth 10000

namespace Blocklist.LetterCase

/-- Each entry gives the first and last capital of a run, and the small letter of the first. -/
def capitalRuns : CodeTable := [
  [
    0x000C0_000D6_000E0, 0x000D8_000DE_000F8, 0x00178_00178_000FF, 0x00181_00181_00253,
    0x00186_00186_00254, 0x00189_0018A_00256, 0x0018E_0018E_001DD, 0x0018F_0018F_00259,
    0x00190_00190_0025B, 0x00193_00193_00260, 0x00194_00194_00263, 0x00196_00196_00269,
    0x00197_00197_00268, 0x0019C_0019C_0026F, 0x0019D_0019D_00272, 0x0019F_0019F_00275,
    0x001A6_001A6_00280, 0x001A9_001A9_00283, 0x001AE_001AE_00288, 0x001B1_001B2_0028A,
    0x001B7_001B7_00292, 0x001C4_001C4_001C6, 0x001C7_001C7_001C9, 0x001CA_001CA_001CC,
    0x001F1_001F1_001F3, 0x001F6_001F6_00195, 0x001F7_001F7_001BF, 0x00220_00220_0019E,
    0x0023A_0023A_02C65, 0x0023D_0023D_0019A, 0x0023E_0023E_02C66, 0x00243_00243_00180,
    0x00244_00244_00289, 0x00245_00245_0028C, 0x0037F_0037F_003F3, 0x00386_00386_003AC,
    0x00388_0038A_003AD, 0x0038C_0038C_003CC, 0x0038E_0038F_003CD, 0x00391_003A1_003B1,
    0x003A3_003AB_003C3, 0x003CF_003CF_003D7, 0x003F4_003F4_003B8, 0x003F9_003F9_003F2,
    0x003FD_003FF_0037B, 0x00400_0040F_00450, 0x00410_0042F_00430, 0x004C0_004C0_004CF,
    0x00531_00556_00561, 0x010A0_010C5_02D00, 0x010C7_010C7_02D27, 0x010CD_010CD_02D2D,
    0x013A0_013EF_0AB70, 0x013F0_013F5_013F8, 0x01C90_01CBA_010D0, 0x01CBD_01CBF_010FD,
    0x01E9E_01E9E_000DF, 0x01F08_01F0F_01F00, 0x01F18_01F1D_01F10, 0x01F28_01F2F_01F20,
    0x01F38_01F3F_01F30, 0x01F48_01F4D_01F40, 0x01F59_01F59_01F51, 0x01F5B_01F5B_01F53],
  [
    0x01F5D_01F5D_01F55, 0x01F5F_01F5F_01F57, 0x01F68_01F6F_01F60, 0x01F88_01F8F_01F80,
    0x01F98_01F9F_01F90, 0x01FA8_01FAF_01FA0, 0x01FB8_01FB9_01FB0, 0x01FBA_01FBB_01F70,
    0x01FBC_01FBC_01FB3, 0x01FC8_01FCB_01F72, 0x01FCC_01FCC_01FC3, 0x01FD8_01FD9_01FD0,
    0x01FDA_01FDB_01F76, 0x01FE8_01FE9_01FE0, 0x01FEA_01FEB_01F7A, 0x01FEC_01FEC_01FE5,
    0x01FF8_01FF9_01F78, 0x01FFA_01FFB_01F7C, 0x01FFC_01FFC_01FF3, 0x02126_02126_003C9,
    0x0212A_0212A_0006B, 0x0212B_0212B_000E5, 0x02132_02132_0214E, 0x02160_0216F_02170,
    0x024B6_024CF_024D0, 0x02C00_02C2F_02C30, 0x02C62_02C62_0026B, 0x02C63_02C63_01D7D,
    0x02C64_02C64_0027D, 0x02C6D_02C6D_00251, 0x02C6E_02C6E_00271, 0x02C6F_02C6F_00250,
    0x02C70_02C70_00252, 0x02C7E_02C7F_0023F, 0x0A77D_0A77D_01D79, 0x0A78D_0A78D_00265,
    0x0A7AA_0A7AA_00266, 0x0A7AB_0A7AB_0025C, 0x0A7AC_0A7AC_00261, 0x0A7AD_0A7AD_0026C,
    0x0A7AE_0A7AE_0026A, 0x0A7B0_0A7B0_0029E, 0x0A7B1_0A7B1_00287, 0x0A7B2_0A7B2_0029D,
    0x0A7B3_0A7B3_0AB53, 0x0A7C4_0A7C4_0A794, 0x0A7C5_0A7C5_00282, 0x0A7C6_0A7C6_01D8E,
    0x0A7CB_0A7CB_00264, 0x0A7DC_0A7DC_0019B, 0x0FF21_0FF3A_0FF41, 0x10400_10427_10428,
    0x104B0_104D3_104D8, 0x10570_1057A_10597, 0x1057C_1058A_105A3, 0x1058C_10592_105B3,
    0x10594_10595_105BB, 0x10C80_10CB2_10CC0, 0x10D50_10D65_10D70, 0x118A0_118BF_118C0,
    0x16E40_16E5F_16E60, 0x1E900_1E921_1E922]]

/-- Each entry gives the first and last capital of a range where every other character is a
capital, followed by its small letter. -/
def capitalPairs : CodeTable := [
  [
    0x00100_0012E, 0x00132_00136, 0x00139_00147, 0x0014A_00176, 0x00179_0017D, 0x00182_00184,
    0x00187_00187, 0x0018B_0018B, 0x00191_00191, 0x00198_00198, 0x001A0_001A4, 0x001A7_001A7,
    0x001AC_001AC, 0x001AF_001AF, 0x001B3_001B5, 0x001B8_001B8, 0x001BC_001BC, 0x001C5_001C5,
    0x001C8_001C8, 0x001CB_001DB, 0x001DE_001EE, 0x001F2_001F4, 0x001F8_0021E, 0x00222_00232,
    0x0023B_0023B, 0x00241_00241, 0x00246_0024E, 0x00370_00372, 0x00376_00376, 0x003D8_003EE,
    0x003F7_003F7, 0x003FA_003FA, 0x00460_00480, 0x0048A_004BE, 0x004C1_004CD, 0x004D0_0052E,
    0x01C89_01C89, 0x01E00_01E94, 0x01EA0_01EFE, 0x02183_02183, 0x02C60_02C60, 0x02C67_02C6B,
    0x02C72_02C72, 0x02C75_02C75, 0x02C80_02CE2, 0x02CEB_02CED, 0x02CF2_02CF2, 0x0A640_0A66C,
    0x0A680_0A69A, 0x0A722_0A72E, 0x0A732_0A76E, 0x0A779_0A77B, 0x0A77E_0A786, 0x0A78B_0A78B,
    0x0A790_0A792, 0x0A796_0A7A8, 0x0A7B4_0A7C2, 0x0A7C7_0A7C9, 0x0A7CC_0A7CC, 0x0A7D0_0A7D0,
    0x0A7D6_0A7DA, 0x0A7F5_0A7F5]]

/-- Each entry gives a range of characters that are letters with a case. -/
def casedRanges : CodeTable := [
  [
    0x000AA_000AA, 0x000B5_000B5, 0x000BA_000BA, 0x000C0_000D6, 0x000D8_000F6, 0x000F8_001BA,
    0x001BC_001BF, 0x001C4_00293, 0x00296_002B8, 0x002C0_002C1, 0x002E0_002E4, 0x00345_00345,
    0x00370_00373, 0x00376_00377, 0x0037A_0037D, 0x0037F_0037F, 0x00386_00386, 0x00388_0038A,
    0x0038C_0038C, 0x0038E_003A1, 0x003A3_003F5, 0x003F7_00481, 0x0048A_0052F, 0x00531_00556,
    0x00560_00588, 0x010A0_010C5, 0x010C7_010C7, 0x010CD_010CD, 0x010D0_010FA, 0x010FC_010FF,
    0x013A0_013F5, 0x013F8_013FD, 0x01C80_01C8A, 0x01C90_01CBA, 0x01CBD_01CBF, 0x01D00_01DBF,
    0x01E00_01F15, 0x01F18_01F1D, 0x01F20_01F45, 0x01F48_01F4D, 0x01F50_01F57, 0x01F59_01F59,
    0x01F5B_01F5B, 0x01F5D_01F5D, 0x01F5F_01F7D, 0x01F80_01FB4, 0x01FB6_01FBC, 0x01FBE_01FBE,
    0x01FC2_01FC4, 0x01FC6_01FCC, 0x01FD0_01FD3, 0x01FD6_01FDB, 0x01FE0_01FEC, 0x01FF2_01FF4,
    0x01FF6_01FFC, 0x02071_02071, 0x0207F_0207F, 0x02090_0209C, 0x02102_02102, 0x02107_02107,
    0x0210A_02113, 0x02115_02115, 0x02119_0211D, 0x02124_02124],
  [
    0x02126_02126, 0x02128_02128, 0x0212A_0212D, 0x0212F_02134, 0x02139_02139, 0x0213C_0213F,
    0x02145_02149, 0x0214E_0214E, 0x02160_0217F, 0x02183_02184, 0x024B6_024E9, 0x02C00_02CE4,
    0x02CEB_02CEE, 0x02CF2_02CF3, 0x02D00_02D25, 0x02D27_02D27, 0x02D2D_02D2D, 0x0A640_0A66D,
    0x0A680_0A69D, 0x0A722_0A787, 0x0A78B_0A78E, 0x0A790_0A7CD, 0x0A7D0_0A7D1, 0x0A7D3_0A7D3,
    0x0A7D5_0A7DC, 0x0A7F2_0A7F6, 0x0A7F8_0A7FA, 0x0AB30_0AB5A, 0x0AB5C_0AB69, 0x0AB70_0ABBF,
    0x0FB00_0FB06, 0x0FB13_0FB17, 0x0FF21_0FF3A, 0x0FF41_0FF5A, 0x10400_1044F, 0x104B0_104D3,
    0x104D8_104FB, 0x10570_1057A, 0x1057C_1058A, 0x1058C_10592, 0x10594_10595, 0x10597_105A1,
    0x105A3_105B1, 0x105B3_105B9, 0x105BB_105BC, 0x10780_10780, 0x10783_10785, 0x10787_107B0,
    0x107B2_107BA, 0x10C80_10CB2, 0x10CC0_10CF2, 0x10D50_10D65, 0x10D70_10D85, 0x118A0_118DF,
    0x16E40_16E7F, 0x1D400_1D454, 0x1D456_1D49C, 0x1D49E_1D49F, 0x1D4A2_1D4A2, 0x1D4A5_1D4A6,
    0x1D4A9_1D4AC, 0x1D4AE_1D4B9, 0x1D4BB_1D4BB, 0x1D4BD_1D4C3],
  [
    0x1D4C5_1D505, 0x1D507_1D50A, 0x1D50D_1D514, 0x1D516_1D51C, 0x1D51E_1D539, 0x1D53B_1D53E,
    0x1D540_1D544, 0x1D546_1D546, 0x1D54A_1D550, 0x1D552_1D6A5, 0x1D6A8_1D6C0, 0x1D6C2_1D6DA,
    0x1D6DC_1D6FA, 0x1D6FC_1D714, 0x1D716_1D734, 0x1D736_1D74E, 0x1D750_1D76E, 0x1D770_1D788,
    0x1D78A_1D7A8, 0x1D7AA_1D7C2, 0x1D7C4_1D7CB, 0x1DF00_1DF09, 0x1DF0B_1DF1E, 0x1DF25_1DF2A,
    0x1E030_1E06D, 0x1E900_1E943, 0x1F130_1F149, 0x1F150_1F169, 0x1F170_1F189]]

/-- Each entry gives a range of characters that a search for a neighbouring letter skips. -/
def ignorableRanges : CodeTable := [
  [
    0x000A8_000A8, 0x000AD_000AD, 0x000AF_000AF, 0x000B4_000B4, 0x000B7_000B8, 0x002B0_0036F,
    0x00374_00375, 0x0037A_0037A, 0x00384_00385, 0x00387_00387, 0x00483_00489, 0x00559_00559,
    0x0055F_0055F, 0x00591_005BD, 0x005BF_005BF, 0x005C1_005C2, 0x005C4_005C5, 0x005C7_005C7,
    0x005F4_005F4, 0x00600_00605, 0x00610_0061A, 0x0061C_0061C, 0x00640_00640, 0x0064B_0065F,
    0x00670_00670, 0x006D6_006DD, 0x006DF_006E8, 0x006EA_006ED, 0x0070F_0070F, 0x00711_00711,
    0x00730_0074A, 0x007A6_007B0, 0x007EB_007F5, 0x007FA_007FA, 0x007FD_007FD, 0x00816_0082D,
    0x00859_0085B, 0x00888_00888, 0x00890_00891, 0x00897_0089F, 0x008C9_00902, 0x0093A_0093A,
    0x0093C_0093C, 0x00941_00948, 0x0094D_0094D, 0x00951_00957, 0x00962_00963, 0x00971_00971,
    0x00981_00981, 0x009BC_009BC, 0x009C1_009C4, 0x009CD_009CD, 0x009E2_009E3, 0x009FE_009FE,
    0x00A01_00A02, 0x00A3C_00A3C, 0x00A41_00A42, 0x00A47_00A48, 0x00A4B_00A4D, 0x00A51_00A51,
    0x00A70_00A71, 0x00A75_00A75, 0x00A81_00A82, 0x00ABC_00ABC],
  [
    0x00AC1_00AC5, 0x00AC7_00AC8, 0x00ACD_00ACD, 0x00AE2_00AE3, 0x00AFA_00AFF, 0x00B01_00B01,
    0x00B3C_00B3C, 0x00B3F_00B3F, 0x00B41_00B44, 0x00B4D_00B4D, 0x00B55_00B56, 0x00B62_00B63,
    0x00B82_00B82, 0x00BC0_00BC0, 0x00BCD_00BCD, 0x00C00_00C00, 0x00C04_00C04, 0x00C3C_00C3C,
    0x00C3E_00C40, 0x00C46_00C48, 0x00C4A_00C4D, 0x00C55_00C56, 0x00C62_00C63, 0x00C81_00C81,
    0x00CBC_00CBC, 0x00CBF_00CBF, 0x00CC6_00CC6, 0x00CCC_00CCD, 0x00CE2_00CE3, 0x00D00_00D01,
    0x00D3B_00D3C, 0x00D41_00D44, 0x00D4D_00D4D, 0x00D62_00D63, 0x00D81_00D81, 0x00DCA_00DCA,
    0x00DD2_00DD4, 0x00DD6_00DD6, 0x00E31_00E31, 0x00E34_00E3A, 0x00E46_00E4E, 0x00EB1_00EB1,
    0x00EB4_00EBC, 0x00EC6_00EC6, 0x00EC8_00ECE, 0x00F18_00F19, 0x00F35_00F35, 0x00F37_00F37,
    0x00F39_00F39, 0x00F71_00F7E, 0x00F80_00F84, 0x00F86_00F87, 0x00F8D_00F97, 0x00F99_00FBC,
    0x00FC6_00FC6, 0x0102D_01030, 0x01032_01037, 0x01039_0103A, 0x0103D_0103E, 0x01058_01059,
    0x0105E_01060, 0x01071_01074, 0x01082_01082, 0x01085_01086],
  [
    0x0108D_0108D, 0x0109D_0109D, 0x010FC_010FC, 0x0135D_0135F, 0x01712_01714, 0x01732_01733,
    0x01752_01753, 0x01772_01773, 0x017B4_017B5, 0x017B7_017BD, 0x017C6_017C6, 0x017C9_017D3,
    0x017D7_017D7, 0x017DD_017DD, 0x0180B_0180F, 0x01843_01843, 0x01885_01886, 0x018A9_018A9,
    0x01920_01922, 0x01927_01928, 0x01932_01932, 0x01939_0193B, 0x01A17_01A18, 0x01A1B_01A1B,
    0x01A56_01A56, 0x01A58_01A5E, 0x01A60_01A60, 0x01A62_01A62, 0x01A65_01A6C, 0x01A73_01A7C,
    0x01A7F_01A7F, 0x01AA7_01AA7, 0x01AB0_01ACE, 0x01B00_01B03, 0x01B34_01B34, 0x01B36_01B3A,
    0x01B3C_01B3C, 0x01B42_01B42, 0x01B6B_01B73, 0x01B80_01B81, 0x01BA2_01BA5, 0x01BA8_01BA9,
    0x01BAB_01BAD, 0x01BE6_01BE6, 0x01BE8_01BE9, 0x01BED_01BED, 0x01BEF_01BF1, 0x01C2C_01C33,
    0x01C36_01C37, 0x01C78_01C7D, 0x01CD0_01CD2, 0x01CD4_01CE0, 0x01CE2_01CE8, 0x01CED_01CED,
    0x01CF4_01CF4, 0x01CF8_01CF9, 0x01D2C_01D6A, 0x01D78_01D78, 0x01D9B_01DFF, 0x01FBD_01FBD,
    0x01FBF_01FC1, 0x01FCD_01FCF, 0x01FDD_01FDF, 0x01FED_01FEF],
  [
    0x01FFD_01FFE, 0x0200B_0200F, 0x02018_02019, 0x02024_02024, 0x02027_02027, 0x0202A_0202E,
    0x02060_02064, 0x02066_0206F, 0x02071_02071, 0x0207F_0207F, 0x02090_0209C, 0x020D0_020F0,
    0x02C7C_02C7D, 0x02CEF_02CF1, 0x02D6F_02D6F, 0x02D7F_02D7F, 0x02DE0_02DFF, 0x02E2F_02E2F,
    0x03005_03005, 0x0302A_0302D, 0x03031_03035, 0x0303B_0303B, 0x03099_0309E, 0x030FC_030FE,
    0x0A015_0A015, 0x0A4F8_0A4FD, 0x0A60C_0A60C, 0x0A66F_0A672, 0x0A674_0A67D, 0x0A67F_0A67F,
    0x0A69C_0A69F, 0x0A6F0_0A6F1, 0x0A700_0A721, 0x0A770_0A770, 0x0A788_0A78A, 0x0A7F2_0A7F4,
    0x0A7F8_0A7F9, 0x0A802_0A802, 0x0A806_0A806, 0x0A80B_0A80B, 0x0A825_0A826, 0x0A82C_0A82C,
    0x0A8C4_0A8C5, 0x0A8E0_0A8F1, 0x0A8FF_0A8FF, 0x0A926_0A92D, 0x0A947_0A951, 0x0A980_0A982,
    0x0A9B3_0A9B3, 0x0A9B6_0A9B9, 0x0A9BC_0A9BD, 0x0A9CF_0A9CF, 0x0A9E5_0A9E6, 0x0AA29_0AA2E,
    0x0AA31_0AA32, 0x0AA35_0AA36, 0x0AA43_0AA43, 0x0AA4C_0AA4C, 0x0AA70_0AA70, 0x0AA7C_0AA7C,
    0x0AAB0_0AAB0, 0x0AAB2_0AAB4, 0x0AAB7_0AAB8, 0x0AABE_0AABF],
  [
    0x0AAC1_0AAC1, 0x0AADD_0AADD, 0x0AAEC_0AAED, 0x0AAF3_0AAF4, 0x0AAF6_0AAF6, 0x0AB5B_0AB5F,
    0x0AB69_0AB6B, 0x0ABE5_0ABE5, 0x0ABE8_0ABE8, 0x0ABED_0ABED, 0x0FB1E_0FB1E, 0x0FBB2_0FBC2,
    0x0FE00_0FE0F, 0x0FE13_0FE13, 0x0FE20_0FE2F, 0x0FE52_0FE52, 0x0FE55_0FE55, 0x0FEFF_0FEFF,
    0x0FF07_0FF07, 0x0FF0E_0FF0E, 0x0FF1A_0FF1A, 0x0FF3E_0FF3E, 0x0FF40_0FF40, 0x0FF70_0FF70,
    0x0FF9E_0FF9F, 0x0FFE3_0FFE3, 0x0FFF9_0FFFB, 0x101FD_101FD, 0x102E0_102E0, 0x10376_1037A,
    0x10780_10785, 0x10787_107B0, 0x107B2_107BA, 0x10A01_10A03, 0x10A05_10A06, 0x10A0C_10A0F,
    0x10A38_10A3A, 0x10A3F_10A3F, 0x10AE5_10AE6, 0x10D24_10D27, 0x10D4E_10D4E, 0x10D69_10D6D,
    0x10D6F_10D6F, 0x10EAB_10EAC, 0x10EFC_10EFF, 0x10F46_10F50, 0x10F82_10F85, 0x11001_11001,
    0x11038_11046, 0x11070_11070, 0x11073_11074, 0x1107F_11081, 0x110B3_110B6, 0x110B9_110BA,
    0x110BD_110BD, 0x110C2_110C2, 0x110CD_110CD, 0x11100_11102, 0x11127_1112B, 0x1112D_11134,
    0x11173_11173, 0x11180_11181, 0x111B6_111BE, 0x111C9_111CC],
  [
    0x111CF_111CF, 0x1122F_11231, 0x11234_11234, 0x11236_11237, 0x1123E_1123E, 0x11241_11241,
    0x112DF_112DF, 0x112E3_112EA, 0x11300_11301, 0x1133B_1133C, 0x11340_11340, 0x11366_1136C,
    0x11370_11374, 0x113BB_113C0, 0x113CE_113CE, 0x113D0_113D0, 0x113D2_113D2, 0x113E1_113E2,
    0x11438_1143F, 0x11442_11444, 0x11446_11446, 0x1145E_1145E, 0x114B3_114B8, 0x114BA_114BA,
    0x114BF_114C0, 0x114C2_114C3, 0x115B2_115B5, 0x115BC_115BD, 0x115BF_115C0, 0x115DC_115DD,
    0x11633_1163A, 0x1163D_1163D, 0x1163F_11640, 0x116AB_116AB, 0x116AD_116AD, 0x116B0_116B5,
    0x116B7_116B7, 0x1171D_1171D, 0x1171F_1171F, 0x11722_11725, 0x11727_1172B, 0x1182F_11837,
    0x11839_1183A, 0x1193B_1193C, 0x1193E_1193E, 0x11943_11943, 0x119D4_119D7, 0x119DA_119DB,
    0x119E0_119E0, 0x11A01_11A0A, 0x11A33_11A38, 0x11A3B_11A3E, 0x11A47_11A47, 0x11A51_11A56,
    0x11A59_11A5B, 0x11A8A_11A96, 0x11A98_11A99, 0x11C30_11C36, 0x11C38_11C3D, 0x11C3F_11C3F,
    0x11C92_11CA7, 0x11CAA_11CB0, 0x11CB2_11CB3, 0x11CB5_11CB6],
  [
    0x11D31_11D36, 0x11D3A_11D3A, 0x11D3C_11D3D, 0x11D3F_11D45, 0x11D47_11D47, 0x11D90_11D91,
    0x11D95_11D95, 0x11D97_11D97, 0x11EF3_11EF4, 0x11F00_11F01, 0x11F36_11F3A, 0x11F40_11F40,
    0x11F42_11F42, 0x11F5A_11F5A, 0x13430_13440, 0x13447_13455, 0x1611E_16129, 0x1612D_1612F,
    0x16AF0_16AF4, 0x16B30_16B36, 0x16B40_16B43, 0x16D40_16D42, 0x16D6B_16D6C, 0x16F4F_16F4F,
    0x16F8F_16F9F, 0x16FE0_16FE1, 0x16FE3_16FE4, 0x1AFF0_1AFF3, 0x1AFF5_1AFFB, 0x1AFFD_1AFFE,
    0x1BC9D_1BC9E, 0x1BCA0_1BCA3, 0x1CF00_1CF2D, 0x1CF30_1CF46, 0x1D167_1D169, 0x1D173_1D182,
    0x1D185_1D18B, 0x1D1AA_1D1AD, 0x1D242_1D244, 0x1DA00_1DA36, 0x1DA3B_1DA6C, 0x1DA75_1DA75,
    0x1DA84_1DA84, 0x1DA9B_1DA9F, 0x1DAA1_1DAAF, 0x1E000_1E006, 0x1E008_1E018, 0x1E01B_1E021,
    0x1E023_1E024, 0x1E026_1E02A, 0x1E030_1E06D, 0x1E08F_1E08F, 0x1E130_1E13D, 0x1E2AE_1E2AE,
    0x1E2EC_1E2EF, 0x1E4EB_1E4EF, 0x1E5EE_1E5EF, 0x1E8D0_1E8D6, 0x1E944_1E94B, 0x1F3FB_1F3FF,
    0xE0001_E0001, 0xE0020_E007F, 0xE0100_E01EF]]

end Blocklist.LetterCase

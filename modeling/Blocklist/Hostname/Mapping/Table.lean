/-
This file holds the treatment of each character beyond ASCII in a hostname of small letters.
-/

import Blocklist.Text.CodeTable

set_option maxRecDepth 10000

namespace Blocklist.Hostname.Mapping

/-- Each entry gives a range of characters that stay as they are, or that only their canonical
decomposition replaces. -/
def keptRanges : CodeTable := [
  [
    0x000A1_000A7, 0x000A9_000A9, 0x000AB_000AC, 0x000AE_000AE, 0x000B0_000B1, 0x000B6_000B7,
    0x000BB_000BB, 0x000BF_000BF, 0x000D7_000D7, 0x000DF_000FF, 0x00101_00101, 0x00103_00103,
    0x00105_00105, 0x00107_00107, 0x00109_00109, 0x0010B_0010B, 0x0010D_0010D, 0x0010F_0010F,
    0x00111_00111, 0x00113_00113, 0x00115_00115, 0x00117_00117, 0x00119_00119, 0x0011B_0011B,
    0x0011D_0011D, 0x0011F_0011F, 0x00121_00121, 0x00123_00123, 0x00125_00125, 0x00127_00127,
    0x00129_00129, 0x0012B_0012B, 0x0012D_0012D, 0x0012F_0012F, 0x00131_00131, 0x00135_00135,
    0x00137_00138, 0x0013A_0013A, 0x0013C_0013C, 0x0013E_0013E, 0x00142_00142, 0x00144_00144,
    0x00146_00146, 0x00148_00148, 0x0014B_0014B, 0x0014D_0014D, 0x0014F_0014F, 0x00151_00151,
    0x00153_00153, 0x00155_00155, 0x00157_00157, 0x00159_00159, 0x0015B_0015B, 0x0015D_0015D,
    0x0015F_0015F, 0x00161_00161, 0x00163_00163, 0x00165_00165, 0x00167_00167, 0x00169_00169,
    0x0016B_0016B, 0x0016D_0016D, 0x0016F_0016F, 0x00171_00171],
  [
    0x00173_00173, 0x00175_00175, 0x00177_00177, 0x0017A_0017A, 0x0017C_0017C, 0x0017E_0017E,
    0x00180_00180, 0x00183_00183, 0x00185_00185, 0x00188_00188, 0x0018C_0018D, 0x00192_00192,
    0x00195_00195, 0x00199_0019B, 0x0019E_0019E, 0x001A1_001A1, 0x001A3_001A3, 0x001A5_001A5,
    0x001A8_001A8, 0x001AA_001AB, 0x001AD_001AD, 0x001B0_001B0, 0x001B4_001B4, 0x001B6_001B6,
    0x001B9_001BB, 0x001BD_001C3, 0x001CE_001CE, 0x001D0_001D0, 0x001D2_001D2, 0x001D4_001D4,
    0x001D6_001D6, 0x001D8_001D8, 0x001DA_001DA, 0x001DC_001DD, 0x001DF_001DF, 0x001E1_001E1,
    0x001E3_001E3, 0x001E5_001E5, 0x001E7_001E7, 0x001E9_001E9, 0x001EB_001EB, 0x001ED_001ED,
    0x001EF_001F0, 0x001F5_001F5, 0x001F9_001F9, 0x001FB_001FB, 0x001FD_001FD, 0x001FF_001FF,
    0x00201_00201, 0x00203_00203, 0x00205_00205, 0x00207_00207, 0x00209_00209, 0x0020B_0020B,
    0x0020D_0020D, 0x0020F_0020F, 0x00211_00211, 0x00213_00213, 0x00215_00215, 0x00217_00217,
    0x00219_00219, 0x0021B_0021B, 0x0021D_0021D, 0x0021F_0021F],
  [
    0x00221_00221, 0x00223_00223, 0x00225_00225, 0x00227_00227, 0x00229_00229, 0x0022B_0022B,
    0x0022D_0022D, 0x0022F_0022F, 0x00231_00231, 0x00233_00239, 0x0023C_0023C, 0x0023F_00240,
    0x00242_00242, 0x00247_00247, 0x00249_00249, 0x0024B_0024B, 0x0024D_0024D, 0x0024F_002AF,
    0x002B9_002D7, 0x002DE_002DF, 0x002E5_00344, 0x00346_0034E, 0x00350_0036F, 0x00371_00371,
    0x00373_00375, 0x00377_00377, 0x0037B_0037E, 0x00387_00387, 0x00390_00390, 0x003AC_003CE,
    0x003D7_003D7, 0x003D9_003D9, 0x003DB_003DB, 0x003DD_003DD, 0x003DF_003DF, 0x003E1_003E1,
    0x003E3_003E3, 0x003E5_003E5, 0x003E7_003E7, 0x003E9_003E9, 0x003EB_003EB, 0x003ED_003ED,
    0x003EF_003EF, 0x003F3_003F3, 0x003F6_003F6, 0x003F8_003F8, 0x003FB_003FC, 0x00430_0045F,
    0x00461_00461, 0x00463_00463, 0x00465_00465, 0x00467_00467, 0x00469_00469, 0x0046B_0046B,
    0x0046D_0046D, 0x0046F_0046F, 0x00471_00471, 0x00473_00473, 0x00475_00475, 0x00477_00477,
    0x00479_00479, 0x0047B_0047B, 0x0047D_0047D, 0x0047F_0047F],
  [
    0x00481_00489, 0x0048B_0048B, 0x0048D_0048D, 0x0048F_0048F, 0x00491_00491, 0x00493_00493,
    0x00495_00495, 0x00497_00497, 0x00499_00499, 0x0049B_0049B, 0x0049D_0049D, 0x0049F_0049F,
    0x004A1_004A1, 0x004A3_004A3, 0x004A5_004A5, 0x004A7_004A7, 0x004A9_004A9, 0x004AB_004AB,
    0x004AD_004AD, 0x004AF_004AF, 0x004B1_004B1, 0x004B3_004B3, 0x004B5_004B5, 0x004B7_004B7,
    0x004B9_004B9, 0x004BB_004BB, 0x004BD_004BD, 0x004BF_004BF, 0x004C2_004C2, 0x004C4_004C4,
    0x004C6_004C6, 0x004C8_004C8, 0x004CA_004CA, 0x004CC_004CC, 0x004CE_004CF, 0x004D1_004D1,
    0x004D3_004D3, 0x004D5_004D5, 0x004D7_004D7, 0x004D9_004D9, 0x004DB_004DB, 0x004DD_004DD,
    0x004DF_004DF, 0x004E1_004E1, 0x004E3_004E3, 0x004E5_004E5, 0x004E7_004E7, 0x004E9_004E9,
    0x004EB_004EB, 0x004ED_004ED, 0x004EF_004EF, 0x004F1_004F1, 0x004F3_004F3, 0x004F5_004F5,
    0x004F7_004F7, 0x004F9_004F9, 0x004FB_004FB, 0x004FD_004FD, 0x004FF_004FF, 0x00501_00501,
    0x00503_00503, 0x00505_00505, 0x00507_00507, 0x00509_00509],
  [
    0x0050B_0050B, 0x0050D_0050D, 0x0050F_0050F, 0x00511_00511, 0x00513_00513, 0x00515_00515,
    0x00517_00517, 0x00519_00519, 0x0051B_0051B, 0x0051D_0051D, 0x0051F_0051F, 0x00521_00521,
    0x00523_00523, 0x00525_00525, 0x00527_00527, 0x00529_00529, 0x0052B_0052B, 0x0052D_0052D,
    0x0052F_0052F, 0x00559_00586, 0x00588_0058A, 0x0058D_0058F, 0x00591_005C7, 0x005D0_005EA,
    0x005EF_005F4, 0x00606_0061B, 0x0061D_00674, 0x00679_006DC, 0x006DE_0070D, 0x00710_0074A,
    0x0074D_007B1, 0x007C0_007FA, 0x007FD_0082D, 0x00830_0083E, 0x00840_0085B, 0x0085E_0085E,
    0x00860_0086A, 0x00870_0088E, 0x00898_008E1, 0x008E3_00983, 0x00985_0098C, 0x0098F_00990,
    0x00993_009A8, 0x009AA_009B0, 0x009B2_009B2, 0x009B6_009B9, 0x009BC_009C4, 0x009C7_009C8,
    0x009CB_009CE, 0x009D7_009D7, 0x009DC_009DD, 0x009DF_009E3, 0x009E6_009FE, 0x00A01_00A03,
    0x00A05_00A0A, 0x00A0F_00A10, 0x00A13_00A28, 0x00A2A_00A30, 0x00A32_00A33, 0x00A35_00A36,
    0x00A38_00A39, 0x00A3C_00A3C, 0x00A3E_00A42, 0x00A47_00A48],
  [
    0x00A4B_00A4D, 0x00A51_00A51, 0x00A59_00A5C, 0x00A5E_00A5E, 0x00A66_00A76, 0x00A81_00A83,
    0x00A85_00A8D, 0x00A8F_00A91, 0x00A93_00AA8, 0x00AAA_00AB0, 0x00AB2_00AB3, 0x00AB5_00AB9,
    0x00ABC_00AC5, 0x00AC7_00AC9, 0x00ACB_00ACD, 0x00AD0_00AD0, 0x00AE0_00AE3, 0x00AE6_00AF1,
    0x00AF9_00AFF, 0x00B01_00B03, 0x00B05_00B0C, 0x00B0F_00B10, 0x00B13_00B28, 0x00B2A_00B30,
    0x00B32_00B33, 0x00B35_00B39, 0x00B3C_00B44, 0x00B47_00B48, 0x00B4B_00B4D, 0x00B55_00B57,
    0x00B5C_00B5D, 0x00B5F_00B63, 0x00B66_00B77, 0x00B82_00B83, 0x00B85_00B8A, 0x00B8E_00B90,
    0x00B92_00B95, 0x00B99_00B9A, 0x00B9C_00B9C, 0x00B9E_00B9F, 0x00BA3_00BA4, 0x00BA8_00BAA,
    0x00BAE_00BB9, 0x00BBE_00BC2, 0x00BC6_00BC8, 0x00BCA_00BCD, 0x00BD0_00BD0, 0x00BD7_00BD7,
    0x00BE6_00BFA, 0x00C00_00C0C, 0x00C0E_00C10, 0x00C12_00C28, 0x00C2A_00C39, 0x00C3C_00C44,
    0x00C46_00C48, 0x00C4A_00C4D, 0x00C55_00C56, 0x00C58_00C5A, 0x00C5D_00C5D, 0x00C60_00C63,
    0x00C66_00C6F, 0x00C77_00C8C, 0x00C8E_00C90, 0x00C92_00CA8],
  [
    0x00CAA_00CB3, 0x00CB5_00CB9, 0x00CBC_00CC4, 0x00CC6_00CC8, 0x00CCA_00CCD, 0x00CD5_00CD6,
    0x00CDD_00CDE, 0x00CE0_00CE3, 0x00CE6_00CEF, 0x00CF1_00CF3, 0x00D00_00D0C, 0x00D0E_00D10,
    0x00D12_00D44, 0x00D46_00D48, 0x00D4A_00D4F, 0x00D54_00D63, 0x00D66_00D7F, 0x00D81_00D83,
    0x00D85_00D96, 0x00D9A_00DB1, 0x00DB3_00DBB, 0x00DBD_00DBD, 0x00DC0_00DC6, 0x00DCA_00DCA,
    0x00DCF_00DD4, 0x00DD6_00DD6, 0x00DD8_00DDF, 0x00DE6_00DEF, 0x00DF2_00DF4, 0x00E01_00E32,
    0x00E34_00E3A, 0x00E3F_00E5B, 0x00E81_00E82, 0x00E84_00E84, 0x00E86_00E8A, 0x00E8C_00EA3,
    0x00EA5_00EA5, 0x00EA7_00EB2, 0x00EB4_00EBD, 0x00EC0_00EC4, 0x00EC6_00EC6, 0x00EC8_00ECE,
    0x00ED0_00ED9, 0x00EDE_00EDF, 0x00F00_00F0B, 0x00F0D_00F47, 0x00F49_00F6C, 0x00F71_00F76,
    0x00F78_00F78, 0x00F7A_00F97, 0x00F99_00FBC, 0x00FBE_00FCC, 0x00FCE_00FDA, 0x01000_0109F,
    0x010D0_010FB, 0x010FD_0115E, 0x01161_01248, 0x0124A_0124D, 0x01250_01256, 0x01258_01258,
    0x0125A_0125D, 0x01260_01288, 0x0128A_0128D, 0x01290_012B0],
  [
    0x012B2_012B5, 0x012B8_012BE, 0x012C0_012C0, 0x012C2_012C5, 0x012C8_012D6, 0x012D8_01310,
    0x01312_01315, 0x01318_0135A, 0x0135D_0137C, 0x01380_01399, 0x013A0_013F5, 0x01400_0167F,
    0x01681_0169C, 0x016A0_016F8, 0x01700_01715, 0x0171F_01736, 0x01740_01753, 0x01760_0176C,
    0x0176E_01770, 0x01772_01773, 0x01780_017B3, 0x017B6_017DD, 0x017E0_017E9, 0x017F0_017F9,
    0x01800_01805, 0x01807_0180A, 0x01810_01819, 0x01820_01878, 0x01880_018AA, 0x018B0_018F5,
    0x01900_0191E, 0x01920_0192B, 0x01930_0193B, 0x01940_01940, 0x01944_0196D, 0x01970_01974,
    0x01980_019AB, 0x019B0_019C9, 0x019D0_019DA, 0x019DE_01A1B, 0x01A1E_01A5E, 0x01A60_01A7C,
    0x01A7F_01A89, 0x01A90_01A99, 0x01AA0_01AAD, 0x01AB0_01ACE, 0x01B00_01B4C, 0x01B50_01B7E,
    0x01B80_01BF3, 0x01BFC_01C37, 0x01C3B_01C49, 0x01C4D_01C7F, 0x01CC0_01CC7, 0x01CD0_01CFA,
    0x01D00_01D2B, 0x01D2F_01D2F, 0x01D3B_01D3B, 0x01D4E_01D4E, 0x01D6B_01D77, 0x01D79_01D9A,
    0x01DC0_01DFF, 0x01E01_01E01, 0x01E03_01E03, 0x01E05_01E05],
  [
    0x01E07_01E07, 0x01E09_01E09, 0x01E0B_01E0B, 0x01E0D_01E0D, 0x01E0F_01E0F, 0x01E11_01E11,
    0x01E13_01E13, 0x01E15_01E15, 0x01E17_01E17, 0x01E19_01E19, 0x01E1B_01E1B, 0x01E1D_01E1D,
    0x01E1F_01E1F, 0x01E21_01E21, 0x01E23_01E23, 0x01E25_01E25, 0x01E27_01E27, 0x01E29_01E29,
    0x01E2B_01E2B, 0x01E2D_01E2D, 0x01E2F_01E2F, 0x01E31_01E31, 0x01E33_01E33, 0x01E35_01E35,
    0x01E37_01E37, 0x01E39_01E39, 0x01E3B_01E3B, 0x01E3D_01E3D, 0x01E3F_01E3F, 0x01E41_01E41,
    0x01E43_01E43, 0x01E45_01E45, 0x01E47_01E47, 0x01E49_01E49, 0x01E4B_01E4B, 0x01E4D_01E4D,
    0x01E4F_01E4F, 0x01E51_01E51, 0x01E53_01E53, 0x01E55_01E55, 0x01E57_01E57, 0x01E59_01E59,
    0x01E5B_01E5B, 0x01E5D_01E5D, 0x01E5F_01E5F, 0x01E61_01E61, 0x01E63_01E63, 0x01E65_01E65,
    0x01E67_01E67, 0x01E69_01E69, 0x01E6B_01E6B, 0x01E6D_01E6D, 0x01E6F_01E6F, 0x01E71_01E71,
    0x01E73_01E73, 0x01E75_01E75, 0x01E77_01E77, 0x01E79_01E79, 0x01E7B_01E7B, 0x01E7D_01E7D,
    0x01E7F_01E7F, 0x01E81_01E81, 0x01E83_01E83, 0x01E85_01E85],
  [
    0x01E87_01E87, 0x01E89_01E89, 0x01E8B_01E8B, 0x01E8D_01E8D, 0x01E8F_01E8F, 0x01E91_01E91,
    0x01E93_01E93, 0x01E95_01E99, 0x01E9C_01E9D, 0x01E9F_01E9F, 0x01EA1_01EA1, 0x01EA3_01EA3,
    0x01EA5_01EA5, 0x01EA7_01EA7, 0x01EA9_01EA9, 0x01EAB_01EAB, 0x01EAD_01EAD, 0x01EAF_01EAF,
    0x01EB1_01EB1, 0x01EB3_01EB3, 0x01EB5_01EB5, 0x01EB7_01EB7, 0x01EB9_01EB9, 0x01EBB_01EBB,
    0x01EBD_01EBD, 0x01EBF_01EBF, 0x01EC1_01EC1, 0x01EC3_01EC3, 0x01EC5_01EC5, 0x01EC7_01EC7,
    0x01EC9_01EC9, 0x01ECB_01ECB, 0x01ECD_01ECD, 0x01ECF_01ECF, 0x01ED1_01ED1, 0x01ED3_01ED3,
    0x01ED5_01ED5, 0x01ED7_01ED7, 0x01ED9_01ED9, 0x01EDB_01EDB, 0x01EDD_01EDD, 0x01EDF_01EDF,
    0x01EE1_01EE1, 0x01EE3_01EE3, 0x01EE5_01EE5, 0x01EE7_01EE7, 0x01EE9_01EE9, 0x01EEB_01EEB,
    0x01EED_01EED, 0x01EEF_01EEF, 0x01EF1_01EF1, 0x01EF3_01EF3, 0x01EF5_01EF5, 0x01EF7_01EF7,
    0x01EF9_01EF9, 0x01EFB_01EFB, 0x01EFD_01EFD, 0x01EFF_01F07, 0x01F10_01F15, 0x01F20_01F27,
    0x01F30_01F37, 0x01F40_01F45, 0x01F50_01F57, 0x01F60_01F67],
  [
    0x01F70_01F7D, 0x01FB0_01FB1, 0x01FB6_01FB6, 0x01FBE_01FBE, 0x01FC6_01FC6, 0x01FD0_01FD3,
    0x01FD6_01FD7, 0x01FE0_01FE7, 0x01FEF_01FEF, 0x01FF6_01FF6, 0x0200C_0200D, 0x02010_02010,
    0x02012_02016, 0x02018_02023, 0x02027_02027, 0x02030_02032, 0x02035_02035, 0x02038_0203B,
    0x0203D_0203D, 0x0203F_02046, 0x0204A_02056, 0x02058_0205E, 0x020A0_020A7, 0x020A9_020C0,
    0x020D0_020F0, 0x02104_02104, 0x02108_02108, 0x02114_02114, 0x02117_02118, 0x0211E_0211F,
    0x02123_02123, 0x02125_02125, 0x02127_02127, 0x02129_02129, 0x0212E_0212E, 0x0213A_0213A,
    0x02141_02144, 0x0214A_0214F, 0x02180_02182, 0x02184_02188, 0x0218A_0218B, 0x02190_0222B,
    0x0222E_0222E, 0x02231_02426, 0x02440_0244A, 0x024EB_02A0B, 0x02A0D_02A73, 0x02A77_02B73,
    0x02B76_02B95, 0x02B97_02BFF, 0x02C30_02C5F, 0x02C61_02C61, 0x02C65_02C66, 0x02C68_02C68,
    0x02C6A_02C6A, 0x02C6C_02C6C, 0x02C71_02C71, 0x02C73_02C74, 0x02C76_02C7B, 0x02C81_02C81,
    0x02C83_02C83, 0x02C85_02C85, 0x02C87_02C87, 0x02C89_02C89],
  [
    0x02C8B_02C8B, 0x02C8D_02C8D, 0x02C8F_02C8F, 0x02C91_02C91, 0x02C93_02C93, 0x02C95_02C95,
    0x02C97_02C97, 0x02C99_02C99, 0x02C9B_02C9B, 0x02C9D_02C9D, 0x02C9F_02C9F, 0x02CA1_02CA1,
    0x02CA3_02CA3, 0x02CA5_02CA5, 0x02CA7_02CA7, 0x02CA9_02CA9, 0x02CAB_02CAB, 0x02CAD_02CAD,
    0x02CAF_02CAF, 0x02CB1_02CB1, 0x02CB3_02CB3, 0x02CB5_02CB5, 0x02CB7_02CB7, 0x02CB9_02CB9,
    0x02CBB_02CBB, 0x02CBD_02CBD, 0x02CBF_02CBF, 0x02CC1_02CC1, 0x02CC3_02CC3, 0x02CC5_02CC5,
    0x02CC7_02CC7, 0x02CC9_02CC9, 0x02CCB_02CCB, 0x02CCD_02CCD, 0x02CCF_02CCF, 0x02CD1_02CD1,
    0x02CD3_02CD3, 0x02CD5_02CD5, 0x02CD7_02CD7, 0x02CD9_02CD9, 0x02CDB_02CDB, 0x02CDD_02CDD,
    0x02CDF_02CDF, 0x02CE1_02CE1, 0x02CE3_02CEA, 0x02CEC_02CEC, 0x02CEE_02CF1, 0x02CF3_02CF3,
    0x02CF9_02D25, 0x02D27_02D27, 0x02D2D_02D2D, 0x02D30_02D67, 0x02D70_02D70, 0x02D7F_02D96,
    0x02DA0_02DA6, 0x02DA8_02DAE, 0x02DB0_02DB6, 0x02DB8_02DBE, 0x02DC0_02DC6, 0x02DC8_02DCE,
    0x02DD0_02DD6, 0x02DD8_02DDE, 0x02DE0_02E5D, 0x02E80_02E99],
  [
    0x02E9B_02E9E, 0x02EA0_02EF2, 0x03001_03001, 0x03003_03035, 0x03037_03037, 0x0303B_0303F,
    0x03041_03096, 0x03099_0309A, 0x0309D_0309E, 0x030A0_030FE, 0x03105_0312F, 0x03190_03191,
    0x031A0_031E3, 0x031F0_031FF, 0x03248_0324F, 0x0327F_0327F, 0x03400_0A48C, 0x0A490_0A4C6,
    0x0A4D0_0A62B, 0x0A641_0A641, 0x0A643_0A643, 0x0A645_0A645, 0x0A647_0A647, 0x0A649_0A649,
    0x0A64B_0A64B, 0x0A64D_0A64D, 0x0A64F_0A64F, 0x0A651_0A651, 0x0A653_0A653, 0x0A655_0A655,
    0x0A657_0A657, 0x0A659_0A659, 0x0A65B_0A65B, 0x0A65D_0A65D, 0x0A65F_0A65F, 0x0A661_0A661,
    0x0A663_0A663, 0x0A665_0A665, 0x0A667_0A667, 0x0A669_0A669, 0x0A66B_0A66B, 0x0A66D_0A67F,
    0x0A681_0A681, 0x0A683_0A683, 0x0A685_0A685, 0x0A687_0A687, 0x0A689_0A689, 0x0A68B_0A68B,
    0x0A68D_0A68D, 0x0A68F_0A68F, 0x0A691_0A691, 0x0A693_0A693, 0x0A695_0A695, 0x0A697_0A697,
    0x0A699_0A699, 0x0A69B_0A69B, 0x0A69E_0A6F7, 0x0A700_0A721, 0x0A723_0A723, 0x0A725_0A725,
    0x0A727_0A727, 0x0A729_0A729, 0x0A72B_0A72B, 0x0A72D_0A72D],
  [
    0x0A72F_0A731, 0x0A733_0A733, 0x0A735_0A735, 0x0A737_0A737, 0x0A739_0A739, 0x0A73B_0A73B,
    0x0A73D_0A73D, 0x0A73F_0A73F, 0x0A741_0A741, 0x0A743_0A743, 0x0A745_0A745, 0x0A747_0A747,
    0x0A749_0A749, 0x0A74B_0A74B, 0x0A74D_0A74D, 0x0A74F_0A74F, 0x0A751_0A751, 0x0A753_0A753,
    0x0A755_0A755, 0x0A757_0A757, 0x0A759_0A759, 0x0A75B_0A75B, 0x0A75D_0A75D, 0x0A75F_0A75F,
    0x0A761_0A761, 0x0A763_0A763, 0x0A765_0A765, 0x0A767_0A767, 0x0A769_0A769, 0x0A76B_0A76B,
    0x0A76D_0A76D, 0x0A76F_0A76F, 0x0A771_0A778, 0x0A77A_0A77A, 0x0A77C_0A77C, 0x0A77F_0A77F,
    0x0A781_0A781, 0x0A783_0A783, 0x0A785_0A785, 0x0A787_0A78A, 0x0A78C_0A78C, 0x0A78E_0A78F,
    0x0A791_0A791, 0x0A793_0A795, 0x0A797_0A797, 0x0A799_0A799, 0x0A79B_0A79B, 0x0A79D_0A79D,
    0x0A79F_0A79F, 0x0A7A1_0A7A1, 0x0A7A3_0A7A3, 0x0A7A5_0A7A5, 0x0A7A7_0A7A7, 0x0A7A9_0A7A9,
    0x0A7AF_0A7AF, 0x0A7B5_0A7B5, 0x0A7B7_0A7B7, 0x0A7B9_0A7B9, 0x0A7BB_0A7BB, 0x0A7BD_0A7BD,
    0x0A7BF_0A7BF, 0x0A7C1_0A7C1, 0x0A7C3_0A7C3, 0x0A7C8_0A7C8],
  [
    0x0A7CA_0A7CA, 0x0A7D1_0A7D1, 0x0A7D3_0A7D3, 0x0A7D5_0A7D5, 0x0A7D7_0A7D7, 0x0A7D9_0A7D9,
    0x0A7F6_0A7F7, 0x0A7FA_0A82C, 0x0A830_0A839, 0x0A840_0A877, 0x0A880_0A8C5, 0x0A8CE_0A8D9,
    0x0A8E0_0A953, 0x0A95F_0A97C, 0x0A980_0A9CD, 0x0A9CF_0A9D9, 0x0A9DE_0A9FE, 0x0AA00_0AA36,
    0x0AA40_0AA4D, 0x0AA50_0AA59, 0x0AA5C_0AAC2, 0x0AADB_0AAF6, 0x0AB01_0AB06, 0x0AB09_0AB0E,
    0x0AB11_0AB16, 0x0AB20_0AB26, 0x0AB28_0AB2E, 0x0AB30_0AB5B, 0x0AB60_0AB68, 0x0AB6A_0AB6B,
    0x0ABC0_0ABED, 0x0ABF0_0ABF9, 0x0AC00_0D7A3, 0x0D7B0_0D7C6, 0x0D7CB_0D7FB, 0x0F900_0FA6D,
    0x0FA70_0FAD9, 0x0FB1D_0FB1F, 0x0FB2A_0FB36, 0x0FB38_0FB3C, 0x0FB3E_0FB3E, 0x0FB40_0FB41,
    0x0FB43_0FB44, 0x0FB46_0FB4E, 0x0FBB2_0FBC2, 0x0FD3E_0FD4F, 0x0FDCF_0FDCF, 0x0FDFD_0FDFF,
    0x0FE20_0FE2F, 0x0FE45_0FE46, 0x0FE73_0FE73, 0x10000_1000B, 0x1000D_10026, 0x10028_1003A,
    0x1003C_1003D, 0x1003F_1004D, 0x10050_1005D, 0x10080_100FA, 0x10100_10102, 0x10107_10133,
    0x10137_1018E, 0x10190_1019C, 0x101A0_101A0, 0x101D0_101FD],
  [
    0x10280_1029C, 0x102A0_102D0, 0x102E0_102FB, 0x10300_10323, 0x1032D_1034A, 0x10350_1037A,
    0x10380_1039D, 0x1039F_103C3, 0x103C8_103D5, 0x10428_1049D, 0x104A0_104A9, 0x104D8_104FB,
    0x10500_10527, 0x10530_10563, 0x1056F_1056F, 0x10597_105A1, 0x105A3_105B1, 0x105B3_105B9,
    0x105BB_105BC, 0x10600_10736, 0x10740_10755, 0x10760_10767, 0x10780_10780, 0x10800_10805,
    0x10808_10808, 0x1080A_10835, 0x10837_10838, 0x1083C_1083C, 0x1083F_10855, 0x10857_1089E,
    0x108A7_108AF, 0x108E0_108F2, 0x108F4_108F5, 0x108FB_1091B, 0x1091F_10939, 0x1093F_1093F,
    0x10980_109B7, 0x109BC_109CF, 0x109D2_10A03, 0x10A05_10A06, 0x10A0C_10A13, 0x10A15_10A17,
    0x10A19_10A35, 0x10A38_10A3A, 0x10A3F_10A48, 0x10A50_10A58, 0x10A60_10A9F, 0x10AC0_10AE6,
    0x10AEB_10AF6, 0x10B00_10B35, 0x10B39_10B55, 0x10B58_10B72, 0x10B78_10B91, 0x10B99_10B9C,
    0x10BA9_10BAF, 0x10C00_10C48, 0x10CC0_10CF2, 0x10CFA_10D27, 0x10D30_10D39, 0x10E60_10E7E,
    0x10E80_10EA9, 0x10EAB_10EAD, 0x10EB0_10EB1, 0x10EFD_10F27],
  [
    0x10F30_10F59, 0x10F70_10F89, 0x10FB0_10FCB, 0x10FE0_10FF6, 0x11000_1104D, 0x11052_11075,
    0x1107F_110BC, 0x110BE_110C2, 0x110D0_110E8, 0x110F0_110F9, 0x11100_11134, 0x11136_11147,
    0x11150_11176, 0x11180_111DF, 0x111E1_111F4, 0x11200_11211, 0x11213_11241, 0x11280_11286,
    0x11288_11288, 0x1128A_1128D, 0x1128F_1129D, 0x1129F_112A9, 0x112B0_112EA, 0x112F0_112F9,
    0x11300_11303, 0x11305_1130C, 0x1130F_11310, 0x11313_11328, 0x1132A_11330, 0x11332_11333,
    0x11335_11339, 0x1133B_11344, 0x11347_11348, 0x1134B_1134D, 0x11350_11350, 0x11357_11357,
    0x1135D_11363, 0x11366_1136C, 0x11370_11374, 0x11400_1145B, 0x1145D_11461, 0x11480_114C7,
    0x114D0_114D9, 0x11580_115B5, 0x115B8_115DD, 0x11600_11644, 0x11650_11659, 0x11660_1166C,
    0x11680_116B9, 0x116C0_116C9, 0x11700_1171A, 0x1171D_1172B, 0x11730_11746, 0x11800_1183B,
    0x118C0_118F2, 0x118FF_11906, 0x11909_11909, 0x1190C_11913, 0x11915_11916, 0x11918_11935,
    0x11937_11938, 0x1193B_11946, 0x11950_11959, 0x119A0_119A7],
  [
    0x119AA_119D7, 0x119DA_119E4, 0x11A00_11A47, 0x11A50_11AA2, 0x11AB0_11AF8, 0x11B00_11B09,
    0x11C00_11C08, 0x11C0A_11C36, 0x11C38_11C45, 0x11C50_11C6C, 0x11C70_11C8F, 0x11C92_11CA7,
    0x11CA9_11CB6, 0x11D00_11D06, 0x11D08_11D09, 0x11D0B_11D36, 0x11D3A_11D3A, 0x11D3C_11D3D,
    0x11D3F_11D47, 0x11D50_11D59, 0x11D60_11D65, 0x11D67_11D68, 0x11D6A_11D8E, 0x11D90_11D91,
    0x11D93_11D98, 0x11DA0_11DA9, 0x11EE0_11EF8, 0x11F00_11F10, 0x11F12_11F3A, 0x11F3E_11F59,
    0x11FB0_11FB0, 0x11FC0_11FF1, 0x11FFF_12399, 0x12400_1246E, 0x12470_12474, 0x12480_12543,
    0x12F90_12FF2, 0x13000_1342F, 0x13440_13455, 0x14400_14646, 0x16800_16A38, 0x16A40_16A5E,
    0x16A60_16A69, 0x16A6E_16ABE, 0x16AC0_16AC9, 0x16AD0_16AED, 0x16AF0_16AF5, 0x16B00_16B45,
    0x16B50_16B59, 0x16B5B_16B61, 0x16B63_16B77, 0x16B7D_16B8F, 0x16E60_16E9A, 0x16F00_16F4A,
    0x16F4F_16F87, 0x16F8F_16F9F, 0x16FE0_16FE4, 0x16FF0_16FF1, 0x17000_187F7, 0x18800_18CD5,
    0x18D00_18D08, 0x1AFF0_1AFF3, 0x1AFF5_1AFFB, 0x1AFFD_1AFFE],
  [
    0x1B000_1B122, 0x1B132_1B132, 0x1B150_1B152, 0x1B155_1B155, 0x1B164_1B167, 0x1B170_1B2FB,
    0x1BC00_1BC6A, 0x1BC70_1BC7C, 0x1BC80_1BC88, 0x1BC90_1BC99, 0x1BC9C_1BC9F, 0x1CF00_1CF2D,
    0x1CF30_1CF46, 0x1CF50_1CFC3, 0x1D000_1D0F5, 0x1D100_1D126, 0x1D129_1D172, 0x1D17B_1D1EA,
    0x1D200_1D245, 0x1D2C0_1D2D3, 0x1D2E0_1D2F3, 0x1D300_1D356, 0x1D360_1D378, 0x1D800_1DA8B,
    0x1DA9B_1DA9F, 0x1DAA1_1DAAF, 0x1DF00_1DF1E, 0x1DF25_1DF2A, 0x1E000_1E006, 0x1E008_1E018,
    0x1E01B_1E021, 0x1E023_1E024, 0x1E026_1E02A, 0x1E08F_1E08F, 0x1E100_1E12C, 0x1E130_1E13D,
    0x1E140_1E149, 0x1E14E_1E14F, 0x1E290_1E2AE, 0x1E2C0_1E2F9, 0x1E2FF_1E2FF, 0x1E4D0_1E4F9,
    0x1E7E0_1E7E6, 0x1E7E8_1E7EB, 0x1E7ED_1E7EE, 0x1E7F0_1E7FE, 0x1E800_1E8C4, 0x1E8C7_1E8D6,
    0x1E922_1E94B, 0x1E950_1E959, 0x1E95E_1E95F, 0x1EC71_1ECB4, 0x1ED01_1ED3D, 0x1EEF0_1EEF1,
    0x1F000_1F02B, 0x1F030_1F093, 0x1F0A0_1F0AE, 0x1F0B1_1F0BF, 0x1F0C1_1F0CF, 0x1F0D1_1F0F5,
    0x1F10B_1F10F, 0x1F12F_1F12F, 0x1F150_1F169, 0x1F16D_1F18F],
  [
    0x1F191_1F1AD, 0x1F1E6_1F1FF, 0x1F260_1F265, 0x1F300_1F6D7, 0x1F6DC_1F6EC, 0x1F6F0_1F6FC,
    0x1F700_1F776, 0x1F77B_1F7D9, 0x1F7E0_1F7EB, 0x1F7F0_1F7F0, 0x1F800_1F80B, 0x1F810_1F847,
    0x1F850_1F859, 0x1F860_1F887, 0x1F890_1F8AD, 0x1F8B0_1F8B1, 0x1F900_1FA53, 0x1FA60_1FA6D,
    0x1FA70_1FA7C, 0x1FA80_1FA88, 0x1FA90_1FABD, 0x1FABF_1FAC5, 0x1FACE_1FADB, 0x1FAE0_1FAE8,
    0x1FAF0_1FAF8, 0x1FB00_1FB92, 0x1FB94_1FBCA, 0x20000_2A6DF, 0x2A700_2B739, 0x2B740_2B81D,
    0x2B820_2CEA1, 0x2CEB0_2EBE0, 0x2F800_2F867, 0x2F869_2F873, 0x2F875_2F91E, 0x2F920_2F95E,
    0x2F960_2F9BE, 0x2F9C0_2FA1D, 0x30000_3134A, 0x31350_323AF]]

/-- Each entry gives a range of characters that are left out. -/
def droppedRanges : CodeTable := [
  [
    0x000AD_000AD, 0x0034F_0034F, 0x0180B_0180D, 0x0180F_0180F, 0x0200B_0200B, 0x02060_02060,
    0x02064_02064, 0x0FE00_0FE0F, 0x0FEFF_0FEFF, 0x1BCA0_1BCA3, 0xE0100_E01EF]]

/-- Each entry gives the first and last character of a run, and the substitute of the first. -/
def substituteRuns : CodeTable := [
  [
    0x000A0_000A0_00020, 0x000AA_000AA_00061, 0x000B2_000B3_00032, 0x000B5_000B5_003BC,
    0x000B9_000B9_00031, 0x000BA_000BA_0006F, 0x0017F_0017F_00073, 0x002B0_002B0_00068,
    0x002B1_002B1_00266, 0x002B2_002B2_0006A, 0x002B3_002B3_00072, 0x002B4_002B4_00279,
    0x002B5_002B5_0027B, 0x002B6_002B6_00281, 0x002B7_002B7_00077, 0x002B8_002B8_00079,
    0x002E0_002E0_00263, 0x002E1_002E1_0006C, 0x002E2_002E2_00073, 0x002E3_002E3_00078,
    0x002E4_002E4_00295, 0x00345_00345_003B9, 0x003D0_003D0_003B2, 0x003D1_003D1_003B8,
    0x003D2_003D2_003C5, 0x003D3_003D3_003CD, 0x003D4_003D4_003CB, 0x003D5_003D5_003C6,
    0x003D6_003D6_003C0, 0x003F0_003F0_003BA, 0x003F1_003F1_003C1, 0x003F2_003F2_003C3,
    0x003F5_003F5_003B5, 0x00F0C_00F0C_00F0B, 0x010FC_010FC_010DC, 0x013F8_013FD_013F0,
    0x01C80_01C80_00432, 0x01C81_01C81_00434, 0x01C82_01C82_0043E, 0x01C83_01C84_00441,
    0x01C85_01C85_00442, 0x01C86_01C86_0044A, 0x01C87_01C87_00463, 0x01C88_01C88_0A64B,
    0x01D2C_01D2C_00061, 0x01D2D_01D2D_000E6, 0x01D2E_01D2E_00062, 0x01D30_01D31_00064,
    0x01D32_01D32_001DD, 0x01D33_01D3A_00067, 0x01D3C_01D3C_0006F, 0x01D3D_01D3D_00223,
    0x01D3E_01D3E_00070, 0x01D3F_01D3F_00072, 0x01D40_01D41_00074, 0x01D42_01D42_00077,
    0x01D43_01D43_00061, 0x01D44_01D45_00250, 0x01D46_01D46_01D02, 0x01D47_01D47_00062,
    0x01D48_01D49_00064, 0x01D4A_01D4A_00259, 0x01D4B_01D4C_0025B, 0x01D4D_01D4D_00067],
  [
    0x01D4F_01D4F_0006B, 0x01D50_01D50_0006D, 0x01D51_01D51_0014B, 0x01D52_01D52_0006F,
    0x01D53_01D53_00254, 0x01D54_01D55_01D16, 0x01D56_01D56_00070, 0x01D57_01D58_00074,
    0x01D59_01D59_01D1D, 0x01D5A_01D5A_0026F, 0x01D5B_01D5B_00076, 0x01D5C_01D5C_01D25,
    0x01D5D_01D5F_003B2, 0x01D60_01D61_003C6, 0x01D62_01D62_00069, 0x01D63_01D63_00072,
    0x01D64_01D65_00075, 0x01D66_01D67_003B2, 0x01D68_01D68_003C1, 0x01D69_01D6A_003C6,
    0x01D78_01D78_0043D, 0x01D9B_01D9B_00252, 0x01D9C_01D9C_00063, 0x01D9D_01D9D_00255,
    0x01D9E_01D9E_000F0, 0x01D9F_01D9F_0025C, 0x01DA0_01DA0_00066, 0x01DA1_01DA1_0025F,
    0x01DA2_01DA2_00261, 0x01DA3_01DA3_00265, 0x01DA4_01DA6_00268, 0x01DA7_01DA7_01D7B,
    0x01DA8_01DA8_0029D, 0x01DA9_01DA9_0026D, 0x01DAA_01DAA_01D85, 0x01DAB_01DAB_0029F,
    0x01DAC_01DAC_00271, 0x01DAD_01DAD_00270, 0x01DAE_01DB1_00272, 0x01DB2_01DB2_00278,
    0x01DB3_01DB4_00282, 0x01DB5_01DB5_001AB, 0x01DB6_01DB7_00289, 0x01DB8_01DB8_01D1C,
    0x01DB9_01DBA_0028B, 0x01DBB_01DBB_0007A, 0x01DBC_01DBE_00290, 0x01DBF_01DBF_003B8,
    0x01E9B_01E9B_01E61, 0x02000_02000_00020, 0x02001_02001_00020, 0x02002_02002_00020,
    0x02003_02003_00020, 0x02004_02004_00020, 0x02005_02005_00020, 0x02006_02006_00020,
    0x02007_02007_00020, 0x02008_02008_00020, 0x02009_02009_00020, 0x0200A_0200A_00020,
    0x02011_02011_02010, 0x0202F_0202F_00020, 0x0205F_0205F_00020, 0x02070_02070_00030],
  [
    0x02071_02071_00069, 0x02074_02079_00034, 0x0207A_0207A_0002B, 0x0207B_0207B_02212,
    0x0207C_0207C_0003D, 0x0207D_0207E_00028, 0x0207F_0207F_0006E, 0x02080_02089_00030,
    0x0208A_0208A_0002B, 0x0208B_0208B_02212, 0x0208C_0208C_0003D, 0x0208D_0208E_00028,
    0x02090_02090_00061, 0x02091_02091_00065, 0x02092_02092_0006F, 0x02093_02093_00078,
    0x02094_02094_00259, 0x02095_02095_00068, 0x02096_02099_0006B, 0x0209A_0209A_00070,
    0x0209B_0209C_00073, 0x02102_02102_00063, 0x02107_02107_0025B, 0x0210A_0210B_00067,
    0x0210C_0210C_00068, 0x0210D_0210D_00068, 0x0210E_0210E_00068, 0x0210F_0210F_00127,
    0x02110_02110_00069, 0x02111_02111_00069, 0x02112_02112_0006C, 0x02113_02113_0006C,
    0x02115_02115_0006E, 0x02119_0211B_00070, 0x0211C_0211C_00072, 0x0211D_0211D_00072,
    0x02124_02124_0007A, 0x02128_02128_0007A, 0x0212C_0212D_00062, 0x0212F_0212F_00065,
    0x02130_02131_00065, 0x02133_02133_0006D, 0x02134_02134_0006F, 0x02135_02138_005D0,
    0x02139_02139_00069, 0x0213C_0213C_003C0, 0x0213D_0213D_003B3, 0x0213E_0213E_003B3,
    0x0213F_0213F_003C0, 0x02140_02140_02211, 0x02145_02145_00064, 0x02146_02147_00064,
    0x02148_02149_00069, 0x02170_02170_00069, 0x02174_02174_00076, 0x02179_02179_00078,
    0x0217C_0217C_0006C, 0x0217D_0217E_00063, 0x0217F_0217F_0006D, 0x02460_02468_00031,
    0x024D0_024E9_00061, 0x024EA_024EA_00030, 0x02C7C_02C7C_0006A, 0x02C7D_02C7D_00076],
  [
    0x02D6F_02D6F_02D61, 0x02E9F_02E9F_06BCD, 0x02EF3_02EF3_09F9F, 0x02F00_02F00_04E00,
    0x02F01_02F01_04E28, 0x02F02_02F02_04E36, 0x02F03_02F03_04E3F, 0x02F04_02F04_04E59,
    0x02F05_02F05_04E85, 0x02F06_02F06_04E8C, 0x02F07_02F07_04EA0, 0x02F08_02F08_04EBA,
    0x02F09_02F09_0513F, 0x02F0A_02F0A_05165, 0x02F0B_02F0B_0516B, 0x02F0C_02F0C_05182,
    0x02F0D_02F0D_05196, 0x02F0E_02F0E_051AB, 0x02F0F_02F0F_051E0, 0x02F10_02F10_051F5,
    0x02F11_02F11_05200, 0x02F12_02F12_0529B, 0x02F13_02F13_052F9, 0x02F14_02F14_05315,
    0x02F15_02F15_0531A, 0x02F16_02F16_05338, 0x02F17_02F17_05341, 0x02F18_02F18_0535C,
    0x02F19_02F19_05369, 0x02F1A_02F1A_05382, 0x02F1B_02F1B_053B6, 0x02F1C_02F1C_053C8,
    0x02F1D_02F1D_053E3, 0x02F1E_02F1E_056D7, 0x02F1F_02F1F_0571F, 0x02F20_02F20_058EB,
    0x02F21_02F21_05902, 0x02F22_02F22_0590A, 0x02F23_02F23_05915, 0x02F24_02F24_05927,
    0x02F25_02F25_05973, 0x02F26_02F26_05B50, 0x02F27_02F27_05B80, 0x02F28_02F28_05BF8,
    0x02F29_02F29_05C0F, 0x02F2A_02F2A_05C22, 0x02F2B_02F2B_05C38, 0x02F2C_02F2C_05C6E,
    0x02F2D_02F2D_05C71, 0x02F2E_02F2E_05DDB, 0x02F2F_02F2F_05DE5, 0x02F30_02F30_05DF1,
    0x02F31_02F31_05DFE, 0x02F32_02F32_05E72, 0x02F33_02F33_05E7A, 0x02F34_02F34_05E7F,
    0x02F35_02F35_05EF4, 0x02F36_02F36_05EFE, 0x02F37_02F37_05F0B, 0x02F38_02F38_05F13,
    0x02F39_02F39_05F50, 0x02F3A_02F3A_05F61, 0x02F3B_02F3B_05F73, 0x02F3C_02F3C_05FC3],
  [
    0x02F3D_02F3D_06208, 0x02F3E_02F3E_06236, 0x02F3F_02F3F_0624B, 0x02F40_02F40_0652F,
    0x02F41_02F41_06534, 0x02F42_02F42_06587, 0x02F43_02F43_06597, 0x02F44_02F44_065A4,
    0x02F45_02F45_065B9, 0x02F46_02F46_065E0, 0x02F47_02F47_065E5, 0x02F48_02F48_066F0,
    0x02F49_02F49_06708, 0x02F4A_02F4A_06728, 0x02F4B_02F4B_06B20, 0x02F4C_02F4C_06B62,
    0x02F4D_02F4D_06B79, 0x02F4E_02F4E_06BB3, 0x02F4F_02F4F_06BCB, 0x02F50_02F50_06BD4,
    0x02F51_02F51_06BDB, 0x02F52_02F52_06C0F, 0x02F53_02F53_06C14, 0x02F54_02F54_06C34,
    0x02F55_02F55_0706B, 0x02F56_02F56_0722A, 0x02F57_02F57_07236, 0x02F58_02F58_0723B,
    0x02F59_02F59_0723F, 0x02F5A_02F5A_07247, 0x02F5B_02F5B_07259, 0x02F5C_02F5C_0725B,
    0x02F5D_02F5D_072AC, 0x02F5E_02F5E_07384, 0x02F5F_02F5F_07389, 0x02F60_02F60_074DC,
    0x02F61_02F61_074E6, 0x02F62_02F62_07518, 0x02F63_02F63_0751F, 0x02F64_02F64_07528,
    0x02F65_02F65_07530, 0x02F66_02F66_0758B, 0x02F67_02F67_07592, 0x02F68_02F68_07676,
    0x02F69_02F69_0767D, 0x02F6A_02F6A_076AE, 0x02F6B_02F6B_076BF, 0x02F6C_02F6C_076EE,
    0x02F6D_02F6D_077DB, 0x02F6E_02F6E_077E2, 0x02F6F_02F6F_077F3, 0x02F70_02F70_0793A,
    0x02F71_02F71_079B8, 0x02F72_02F72_079BE, 0x02F73_02F73_07A74, 0x02F74_02F74_07ACB,
    0x02F75_02F75_07AF9, 0x02F76_02F76_07C73, 0x02F77_02F77_07CF8, 0x02F78_02F78_07F36,
    0x02F79_02F79_07F51, 0x02F7A_02F7A_07F8A, 0x02F7B_02F7B_07FBD, 0x02F7C_02F7C_08001],
  [
    0x02F7D_02F7D_0800C, 0x02F7E_02F7E_08012, 0x02F7F_02F7F_08033, 0x02F80_02F80_0807F,
    0x02F81_02F81_08089, 0x02F82_02F82_081E3, 0x02F83_02F83_081EA, 0x02F84_02F84_081F3,
    0x02F85_02F85_081FC, 0x02F86_02F86_0820C, 0x02F87_02F87_0821B, 0x02F88_02F88_0821F,
    0x02F89_02F89_0826E, 0x02F8A_02F8A_08272, 0x02F8B_02F8B_08278, 0x02F8C_02F8C_0864D,
    0x02F8D_02F8D_0866B, 0x02F8E_02F8E_08840, 0x02F8F_02F8F_0884C, 0x02F90_02F90_08863,
    0x02F91_02F91_0897E, 0x02F92_02F92_0898B, 0x02F93_02F93_089D2, 0x02F94_02F94_08A00,
    0x02F95_02F95_08C37, 0x02F96_02F96_08C46, 0x02F97_02F97_08C55, 0x02F98_02F98_08C78,
    0x02F99_02F99_08C9D, 0x02F9A_02F9A_08D64, 0x02F9B_02F9B_08D70, 0x02F9C_02F9C_08DB3,
    0x02F9D_02F9D_08EAB, 0x02F9E_02F9E_08ECA, 0x02F9F_02F9F_08F9B, 0x02FA0_02FA0_08FB0,
    0x02FA1_02FA1_08FB5, 0x02FA2_02FA2_09091, 0x02FA3_02FA3_09149, 0x02FA4_02FA4_091C6,
    0x02FA5_02FA5_091CC, 0x02FA6_02FA6_091D1, 0x02FA7_02FA7_09577, 0x02FA8_02FA8_09580,
    0x02FA9_02FA9_0961C, 0x02FAA_02FAA_096B6, 0x02FAB_02FAB_096B9, 0x02FAC_02FAC_096E8,
    0x02FAD_02FAD_09751, 0x02FAE_02FAE_0975E, 0x02FAF_02FAF_09762, 0x02FB0_02FB0_09769,
    0x02FB1_02FB1_097CB, 0x02FB2_02FB2_097ED, 0x02FB3_02FB3_097F3, 0x02FB4_02FB4_09801,
    0x02FB5_02FB5_098A8, 0x02FB6_02FB6_098DB, 0x02FB7_02FB7_098DF, 0x02FB8_02FB8_09996,
    0x02FB9_02FB9_09999, 0x02FBA_02FBA_099AC, 0x02FBB_02FBB_09AA8, 0x02FBC_02FBC_09AD8],
  [
    0x02FBD_02FBD_09ADF, 0x02FBE_02FBE_09B25, 0x02FBF_02FBF_09B2F, 0x02FC0_02FC0_09B32,
    0x02FC1_02FC1_09B3C, 0x02FC2_02FC2_09B5A, 0x02FC3_02FC3_09CE5, 0x02FC4_02FC4_09E75,
    0x02FC5_02FC5_09E7F, 0x02FC6_02FC6_09EA5, 0x02FC7_02FC7_09EBB, 0x02FC8_02FC8_09EC3,
    0x02FC9_02FC9_09ECD, 0x02FCA_02FCA_09ED1, 0x02FCB_02FCB_09EF9, 0x02FCC_02FCC_09EFD,
    0x02FCD_02FCD_09F0E, 0x02FCE_02FCE_09F13, 0x02FCF_02FCF_09F20, 0x02FD0_02FD0_09F3B,
    0x02FD1_02FD1_09F4A, 0x02FD2_02FD2_09F52, 0x02FD3_02FD3_09F8D, 0x02FD4_02FD4_09F9C,
    0x02FD5_02FD5_09FA0, 0x03000_03000_00020, 0x03002_03002_0002E, 0x03036_03036_03012,
    0x03038_03038_05341, 0x03039_0303A_05344, 0x03131_03132_01100, 0x03133_03133_011AA,
    0x03134_03134_01102, 0x03135_03136_011AC, 0x03137_03139_01103, 0x0313A_0313F_011B0,
    0x03140_03140_0111A, 0x03141_03143_01106, 0x03144_03144_01121, 0x03145_0314E_01109,
    0x0314F_03163_01161, 0x03165_03166_01114, 0x03167_03168_011C7, 0x03169_03169_011CC,
    0x0316A_0316A_011CE, 0x0316B_0316B_011D3, 0x0316C_0316C_011D7, 0x0316D_0316D_011D9,
    0x0316E_0316E_0111C, 0x0316F_0316F_011DD, 0x03170_03170_011DF, 0x03171_03172_0111D,
    0x03173_03173_01120, 0x03174_03175_01122, 0x03176_03176_01127, 0x03177_03177_01129,
    0x03178_0317C_0112B, 0x0317D_0317D_01132, 0x0317E_0317E_01136, 0x0317F_0317F_01140,
    0x03180_03180_01147, 0x03181_03181_0114C, 0x03182_03183_011F1, 0x03184_03186_01157],
  [
    0x03187_03188_01184, 0x03189_03189_01188, 0x0318A_0318B_01191, 0x0318C_0318C_01194,
    0x0318D_0318D_0119E, 0x0318E_0318E_011A1, 0x03192_03192_04E00, 0x03193_03193_04E8C,
    0x03194_03194_04E09, 0x03195_03195_056DB, 0x03196_03196_04E0A, 0x03197_03197_04E2D,
    0x03198_03198_04E0B, 0x03199_03199_07532, 0x0319A_0319A_04E59, 0x0319B_0319B_04E19,
    0x0319C_0319C_04E01, 0x0319D_0319D_05929, 0x0319E_0319E_05730, 0x0319F_0319F_04EBA,
    0x03244_03244_0554F, 0x03245_03245_05E7C, 0x03246_03246_06587, 0x03247_03247_07B8F,
    0x03260_03260_01100, 0x03261_03262_01102, 0x03263_03265_01105, 0x03266_03266_01109,
    0x03267_03268_0110B, 0x03269_0326D_0110E, 0x0326E_0326E_0AC00, 0x0326F_0326F_0B098,
    0x03270_03270_0B2E4, 0x03271_03271_0B77C, 0x03272_03272_0B9C8, 0x03273_03273_0BC14,
    0x03274_03274_0C0AC, 0x03275_03275_0C544, 0x03276_03276_0C790, 0x03277_03277_0CC28,
    0x03278_03278_0CE74, 0x03279_03279_0D0C0, 0x0327A_0327A_0D30C, 0x0327B_0327B_0D558,
    0x0327E_0327E_0C6B0, 0x03280_03280_04E00, 0x03281_03281_04E8C, 0x03282_03282_04E09,
    0x03283_03283_056DB, 0x03284_03284_04E94, 0x03285_03285_0516D, 0x03286_03286_04E03,
    0x03287_03287_0516B, 0x03288_03288_04E5D, 0x03289_03289_05341, 0x0328A_0328A_06708,
    0x0328B_0328B_0706B, 0x0328C_0328C_06C34, 0x0328D_0328D_06728, 0x0328E_0328E_091D1,
    0x0328F_0328F_0571F, 0x03290_03290_065E5, 0x03291_03291_0682A, 0x03292_03292_06709],
  [
    0x03293_03293_0793E, 0x03294_03294_0540D, 0x03295_03295_07279, 0x03296_03296_08CA1,
    0x03297_03297_0795D, 0x03298_03298_052B4, 0x03299_03299_079D8, 0x0329A_0329A_07537,
    0x0329B_0329B_05973, 0x0329C_0329C_09069, 0x0329D_0329D_0512A, 0x0329E_0329E_05370,
    0x0329F_0329F_06CE8, 0x032A0_032A0_09805, 0x032A1_032A1_04F11, 0x032A2_032A2_05199,
    0x032A3_032A3_06B63, 0x032A4_032A4_04E0A, 0x032A5_032A5_04E2D, 0x032A6_032A6_04E0B,
    0x032A7_032A7_05DE6, 0x032A8_032A8_053F3, 0x032A9_032A9_0533B, 0x032AA_032AA_05B97,
    0x032AB_032AB_05B66, 0x032AC_032AC_076E3, 0x032AD_032AD_04F01, 0x032AE_032AE_08CC7,
    0x032AF_032AF_05354, 0x032B0_032B0_0591C, 0x032D0_032D0_030A2, 0x032D1_032D1_030A4,
    0x032D2_032D2_030A6, 0x032D3_032D3_030A8, 0x032D4_032D5_030AA, 0x032D6_032D6_030AD,
    0x032D7_032D7_030AF, 0x032D8_032D8_030B1, 0x032D9_032D9_030B3, 0x032DA_032DA_030B5,
    0x032DB_032DB_030B7, 0x032DC_032DC_030B9, 0x032DD_032DD_030BB, 0x032DE_032DE_030BD,
    0x032DF_032DF_030BF, 0x032E0_032E0_030C1, 0x032E1_032E1_030C4, 0x032E2_032E2_030C6,
    0x032E3_032E3_030C8, 0x032E4_032E9_030CA, 0x032EA_032EA_030D2, 0x032EB_032EB_030D5,
    0x032EC_032EC_030D8, 0x032ED_032ED_030DB, 0x032EE_032F2_030DE, 0x032F3_032F3_030E4,
    0x032F4_032F4_030E6, 0x032F5_032FA_030E8, 0x032FB_032FE_030EF, 0x0A69C_0A69C_0044A,
    0x0A69D_0A69D_0044C, 0x0A770_0A770_0A76F, 0x0A7F2_0A7F2_00063, 0x0A7F3_0A7F3_00066],
  [
    0x0A7F4_0A7F4_00071, 0x0A7F8_0A7F8_00127, 0x0A7F9_0A7F9_00153, 0x0AB5C_0AB5C_0A727,
    0x0AB5D_0AB5D_0AB37, 0x0AB5E_0AB5E_0026B, 0x0AB5F_0AB5F_0AB52, 0x0AB69_0AB69_0028D,
    0x0AB70_0ABBF_013A0, 0x0FB20_0FB20_005E2, 0x0FB21_0FB21_005D0, 0x0FB22_0FB23_005D3,
    0x0FB24_0FB26_005DB, 0x0FB27_0FB27_005E8, 0x0FB28_0FB28_005EA, 0x0FB29_0FB29_0002B,
    0x0FB50_0FB50_00671, 0x0FB51_0FB51_00671, 0x0FB52_0FB52_0067B, 0x0FB53_0FB53_0067B,
    0x0FB54_0FB54_0067B, 0x0FB55_0FB55_0067B, 0x0FB56_0FB56_0067E, 0x0FB57_0FB57_0067E,
    0x0FB58_0FB58_0067E, 0x0FB59_0FB59_0067E, 0x0FB5A_0FB5A_00680, 0x0FB5B_0FB5B_00680,
    0x0FB5C_0FB5C_00680, 0x0FB5D_0FB5D_00680, 0x0FB5E_0FB5E_0067A, 0x0FB5F_0FB5F_0067A,
    0x0FB60_0FB60_0067A, 0x0FB61_0FB61_0067A, 0x0FB62_0FB62_0067F, 0x0FB63_0FB63_0067F,
    0x0FB64_0FB64_0067F, 0x0FB65_0FB65_0067F, 0x0FB66_0FB66_00679, 0x0FB67_0FB67_00679,
    0x0FB68_0FB68_00679, 0x0FB69_0FB69_00679, 0x0FB6A_0FB6A_006A4, 0x0FB6B_0FB6B_006A4,
    0x0FB6C_0FB6C_006A4, 0x0FB6D_0FB6D_006A4, 0x0FB6E_0FB6E_006A6, 0x0FB6F_0FB6F_006A6,
    0x0FB70_0FB70_006A6, 0x0FB71_0FB71_006A6, 0x0FB72_0FB72_00684, 0x0FB73_0FB73_00684,
    0x0FB74_0FB74_00684, 0x0FB75_0FB75_00684, 0x0FB76_0FB76_00683, 0x0FB77_0FB77_00683,
    0x0FB78_0FB78_00683, 0x0FB79_0FB79_00683, 0x0FB7A_0FB7A_00686, 0x0FB7B_0FB7B_00686,
    0x0FB7C_0FB7C_00686, 0x0FB7D_0FB7E_00686, 0x0FB7F_0FB7F_00687, 0x0FB80_0FB80_00687],
  [
    0x0FB81_0FB81_00687, 0x0FB82_0FB82_0068D, 0x0FB83_0FB83_0068D, 0x0FB84_0FB84_0068C,
    0x0FB85_0FB85_0068C, 0x0FB86_0FB86_0068E, 0x0FB87_0FB87_0068E, 0x0FB88_0FB88_00688,
    0x0FB89_0FB89_00688, 0x0FB8A_0FB8A_00698, 0x0FB8B_0FB8B_00698, 0x0FB8C_0FB8C_00691,
    0x0FB8D_0FB8D_00691, 0x0FB8E_0FB8E_006A9, 0x0FB8F_0FB8F_006A9, 0x0FB90_0FB90_006A9,
    0x0FB91_0FB91_006A9, 0x0FB92_0FB92_006AF, 0x0FB93_0FB93_006AF, 0x0FB94_0FB94_006AF,
    0x0FB95_0FB95_006AF, 0x0FB96_0FB96_006B3, 0x0FB97_0FB97_006B3, 0x0FB98_0FB98_006B3,
    0x0FB99_0FB99_006B3, 0x0FB9A_0FB9A_006B1, 0x0FB9B_0FB9B_006B1, 0x0FB9C_0FB9C_006B1,
    0x0FB9D_0FB9D_006B1, 0x0FB9E_0FB9E_006BA, 0x0FB9F_0FBA0_006BA, 0x0FBA1_0FBA1_006BB,
    0x0FBA2_0FBA2_006BB, 0x0FBA3_0FBA3_006BB, 0x0FBA4_0FBA4_006C0, 0x0FBA5_0FBA6_006C0,
    0x0FBA7_0FBA7_006C1, 0x0FBA8_0FBA8_006C1, 0x0FBA9_0FBA9_006C1, 0x0FBAA_0FBAA_006BE,
    0x0FBAB_0FBAB_006BE, 0x0FBAC_0FBAC_006BE, 0x0FBAD_0FBAD_006BE, 0x0FBAE_0FBAE_006D2,
    0x0FBAF_0FBB0_006D2, 0x0FBB1_0FBB1_006D3, 0x0FBD3_0FBD3_006AD, 0x0FBD4_0FBD4_006AD,
    0x0FBD5_0FBD5_006AD, 0x0FBD6_0FBD6_006AD, 0x0FBD7_0FBD7_006C7, 0x0FBD8_0FBD8_006C7,
    0x0FBD9_0FBD9_006C6, 0x0FBDA_0FBDA_006C6, 0x0FBDB_0FBDB_006C8, 0x0FBDC_0FBDC_006C8,
    0x0FBDE_0FBDE_006CB, 0x0FBDF_0FBDF_006CB, 0x0FBE0_0FBE0_006C5, 0x0FBE1_0FBE1_006C5,
    0x0FBE2_0FBE2_006C9, 0x0FBE3_0FBE3_006C9, 0x0FBE4_0FBE4_006D0, 0x0FBE5_0FBE5_006D0],
  [
    0x0FBE6_0FBE6_006D0, 0x0FBE7_0FBE7_006D0, 0x0FBE8_0FBE8_00649, 0x0FBE9_0FBE9_00649,
    0x0FBFC_0FBFC_006CC, 0x0FBFD_0FBFD_006CC, 0x0FBFE_0FBFE_006CC, 0x0FBFF_0FBFF_006CC,
    0x0FE10_0FE10_0002C, 0x0FE11_0FE11_03001, 0x0FE13_0FE14_0003A, 0x0FE15_0FE15_00021,
    0x0FE16_0FE16_0003F, 0x0FE17_0FE18_03016, 0x0FE31_0FE31_02014, 0x0FE32_0FE32_02013,
    0x0FE33_0FE33_0005F, 0x0FE34_0FE34_0005F, 0x0FE35_0FE36_00028, 0x0FE37_0FE37_0007B,
    0x0FE38_0FE38_0007D, 0x0FE39_0FE3A_03014, 0x0FE3B_0FE3C_03010, 0x0FE3D_0FE3E_0300A,
    0x0FE3F_0FE40_03008, 0x0FE41_0FE44_0300C, 0x0FE47_0FE47_0005B, 0x0FE48_0FE48_0005D,
    0x0FE4D_0FE4D_0005F, 0x0FE4E_0FE4E_0005F, 0x0FE4F_0FE4F_0005F, 0x0FE50_0FE50_0002C,
    0x0FE51_0FE51_03001, 0x0FE54_0FE54_0003B, 0x0FE55_0FE55_0003A, 0x0FE56_0FE56_0003F,
    0x0FE57_0FE57_00021, 0x0FE58_0FE58_02014, 0x0FE59_0FE5A_00028, 0x0FE5B_0FE5B_0007B,
    0x0FE5C_0FE5C_0007D, 0x0FE5D_0FE5E_03014, 0x0FE5F_0FE5F_00023, 0x0FE60_0FE60_00026,
    0x0FE61_0FE62_0002A, 0x0FE63_0FE63_0002D, 0x0FE64_0FE64_0003C, 0x0FE65_0FE65_0003E,
    0x0FE66_0FE66_0003D, 0x0FE68_0FE68_0005C, 0x0FE69_0FE6A_00024, 0x0FE6B_0FE6B_00040,
    0x0FE80_0FE81_00621, 0x0FE82_0FE83_00622, 0x0FE84_0FE85_00623, 0x0FE86_0FE87_00624,
    0x0FE88_0FE89_00625, 0x0FE8A_0FE8A_00626, 0x0FE8B_0FE8B_00626, 0x0FE8C_0FE8D_00626,
    0x0FE8E_0FE8F_00627, 0x0FE90_0FE90_00628, 0x0FE91_0FE91_00628, 0x0FE92_0FE93_00628],
  [
    0x0FE94_0FE95_00629, 0x0FE96_0FE96_0062A, 0x0FE97_0FE97_0062A, 0x0FE98_0FE99_0062A,
    0x0FE9A_0FE9A_0062B, 0x0FE9B_0FE9B_0062B, 0x0FE9C_0FE9D_0062B, 0x0FE9E_0FE9E_0062C,
    0x0FE9F_0FE9F_0062C, 0x0FEA0_0FEA1_0062C, 0x0FEA2_0FEA2_0062D, 0x0FEA3_0FEA3_0062D,
    0x0FEA4_0FEA5_0062D, 0x0FEA6_0FEA6_0062E, 0x0FEA7_0FEA7_0062E, 0x0FEA8_0FEA9_0062E,
    0x0FEAA_0FEAB_0062F, 0x0FEAC_0FEAD_00630, 0x0FEAE_0FEAF_00631, 0x0FEB0_0FEB1_00632,
    0x0FEB2_0FEB2_00633, 0x0FEB3_0FEB3_00633, 0x0FEB4_0FEB5_00633, 0x0FEB6_0FEB6_00634,
    0x0FEB7_0FEB7_00634, 0x0FEB8_0FEB9_00634, 0x0FEBA_0FEBA_00635, 0x0FEBB_0FEBB_00635,
    0x0FEBC_0FEBD_00635, 0x0FEBE_0FEBE_00636, 0x0FEBF_0FEBF_00636, 0x0FEC0_0FEC1_00636,
    0x0FEC2_0FEC2_00637, 0x0FEC3_0FEC3_00637, 0x0FEC4_0FEC5_00637, 0x0FEC6_0FEC6_00638,
    0x0FEC7_0FEC7_00638, 0x0FEC8_0FEC9_00638, 0x0FECA_0FECA_00639, 0x0FECB_0FECB_00639,
    0x0FECC_0FECD_00639, 0x0FECE_0FECE_0063A, 0x0FECF_0FECF_0063A, 0x0FED0_0FED0_0063A,
    0x0FED1_0FED1_00641, 0x0FED2_0FED2_00641, 0x0FED3_0FED3_00641, 0x0FED4_0FED5_00641,
    0x0FED6_0FED6_00642, 0x0FED7_0FED7_00642, 0x0FED8_0FED9_00642, 0x0FEDA_0FEDA_00643,
    0x0FEDB_0FEDB_00643, 0x0FEDC_0FEDD_00643, 0x0FEDE_0FEDE_00644, 0x0FEDF_0FEDF_00644,
    0x0FEE0_0FEE1_00644, 0x0FEE2_0FEE2_00645, 0x0FEE3_0FEE3_00645, 0x0FEE4_0FEE5_00645,
    0x0FEE6_0FEE6_00646, 0x0FEE7_0FEE7_00646, 0x0FEE8_0FEE9_00646, 0x0FEEA_0FEEA_00647],
  [
    0x0FEEB_0FEEB_00647, 0x0FEEC_0FEED_00647, 0x0FEEE_0FEEF_00648, 0x0FEF0_0FEF1_00649,
    0x0FEF2_0FEF2_0064A, 0x0FEF3_0FEF3_0064A, 0x0FEF4_0FEF4_0064A, 0x0FF01_0FF20_00021,
    0x0FF3B_0FF5E_0005B, 0x0FF5F_0FF60_02985, 0x0FF61_0FF61_0002E, 0x0FF62_0FF63_0300C,
    0x0FF64_0FF64_03001, 0x0FF65_0FF65_030FB, 0x0FF66_0FF66_030F2, 0x0FF67_0FF67_030A1,
    0x0FF68_0FF68_030A3, 0x0FF69_0FF69_030A5, 0x0FF6A_0FF6A_030A7, 0x0FF6B_0FF6B_030A9,
    0x0FF6C_0FF6C_030E3, 0x0FF6D_0FF6D_030E5, 0x0FF6E_0FF6E_030E7, 0x0FF6F_0FF6F_030C3,
    0x0FF70_0FF70_030FC, 0x0FF71_0FF71_030A2, 0x0FF72_0FF72_030A4, 0x0FF73_0FF73_030A6,
    0x0FF74_0FF74_030A8, 0x0FF75_0FF76_030AA, 0x0FF77_0FF77_030AD, 0x0FF78_0FF78_030AF,
    0x0FF79_0FF79_030B1, 0x0FF7A_0FF7A_030B3, 0x0FF7B_0FF7B_030B5, 0x0FF7C_0FF7C_030B7,
    0x0FF7D_0FF7D_030B9, 0x0FF7E_0FF7E_030BB, 0x0FF7F_0FF7F_030BD, 0x0FF80_0FF80_030BF,
    0x0FF81_0FF81_030C1, 0x0FF82_0FF82_030C4, 0x0FF83_0FF83_030C6, 0x0FF84_0FF84_030C8,
    0x0FF85_0FF8A_030CA, 0x0FF8B_0FF8B_030D2, 0x0FF8C_0FF8C_030D5, 0x0FF8D_0FF8D_030D8,
    0x0FF8E_0FF8E_030DB, 0x0FF8F_0FF93_030DE, 0x0FF94_0FF94_030E4, 0x0FF95_0FF95_030E6,
    0x0FF96_0FF9B_030E8, 0x0FF9C_0FF9C_030EF, 0x0FF9D_0FF9D_030F3, 0x0FF9E_0FF9F_03099,
    0x0FFA1_0FFA2_01100, 0x0FFA3_0FFA3_011AA, 0x0FFA4_0FFA4_01102, 0x0FFA5_0FFA6_011AC,
    0x0FFA7_0FFA9_01103, 0x0FFAA_0FFAF_011B0, 0x0FFB0_0FFB0_0111A, 0x0FFB1_0FFB3_01106],
  [
    0x0FFB4_0FFB4_01121, 0x0FFB5_0FFBE_01109, 0x0FFC2_0FFC7_01161, 0x0FFCA_0FFCF_01167,
    0x0FFD2_0FFD7_0116D, 0x0FFDA_0FFDC_01173, 0x0FFE0_0FFE1_000A2, 0x0FFE2_0FFE2_000AC,
    0x0FFE4_0FFE4_000A6, 0x0FFE5_0FFE5_000A5, 0x0FFE6_0FFE6_020A9, 0x0FFE8_0FFE8_02502,
    0x0FFE9_0FFEC_02190, 0x0FFED_0FFED_025A0, 0x0FFEE_0FFEE_025CB, 0x10781_10782_002D0,
    0x10783_10783_000E6, 0x10784_10784_00299, 0x10785_10785_00253, 0x10787_10787_002A3,
    0x10788_10788_0AB66, 0x10789_10789_002A5, 0x1078A_1078A_002A4, 0x1078B_1078C_00256,
    0x1078D_1078D_01D91, 0x1078E_1078E_00258, 0x1078F_1078F_0025E, 0x10790_10790_002A9,
    0x10791_10791_00264, 0x10792_10792_00262, 0x10793_10793_00260, 0x10794_10794_0029B,
    0x10795_10795_00127, 0x10796_10796_0029C, 0x10797_10797_00267, 0x10798_10798_00284,
    0x10799_1079A_002AA, 0x1079B_1079B_0026C, 0x1079C_1079C_1DF04, 0x1079D_1079D_0A78E,
    0x1079E_1079E_0026E, 0x1079F_1079F_1DF05, 0x107A0_107A0_0028E, 0x107A1_107A1_1DF06,
    0x107A2_107A2_000F8, 0x107A3_107A4_00276, 0x107A5_107A5_00071, 0x107A6_107A6_0027A,
    0x107A7_107A7_1DF08, 0x107A8_107A9_0027D, 0x107AA_107AA_00280, 0x107AB_107AB_002A8,
    0x107AC_107AC_002A6, 0x107AD_107AD_0AB67, 0x107AE_107AE_002A7, 0x107AF_107AF_00288,
    0x107B0_107B0_02C71, 0x107B2_107B2_0028F, 0x107B3_107B4_002A1, 0x107B5_107B5_00298,
    0x107B6_107B8_001C0, 0x107B9_107B9_1DF0A, 0x107BA_107BA_1DF1E, 0x1D400_1D419_00061],
  [
    0x1D41A_1D433_00061, 0x1D434_1D44D_00061, 0x1D44E_1D454_00061, 0x1D456_1D467_00069,
    0x1D468_1D481_00061, 0x1D482_1D49B_00061, 0x1D49C_1D49C_00061, 0x1D49E_1D49F_00063,
    0x1D4A2_1D4A2_00067, 0x1D4A5_1D4A6_0006A, 0x1D4A9_1D4AC_0006E, 0x1D4AE_1D4B5_00073,
    0x1D4B6_1D4B9_00061, 0x1D4BB_1D4BB_00066, 0x1D4BD_1D4C3_00068, 0x1D4C5_1D4CF_00070,
    0x1D4D0_1D4E9_00061, 0x1D4EA_1D503_00061, 0x1D504_1D505_00061, 0x1D507_1D50A_00064,
    0x1D50D_1D514_0006A, 0x1D516_1D51C_00073, 0x1D51E_1D537_00061, 0x1D538_1D539_00061,
    0x1D53B_1D53E_00064, 0x1D540_1D544_00069, 0x1D546_1D546_0006F, 0x1D54A_1D550_00073,
    0x1D552_1D56B_00061, 0x1D56C_1D585_00061, 0x1D586_1D59F_00061, 0x1D5A0_1D5B9_00061,
    0x1D5BA_1D5D3_00061, 0x1D5D4_1D5ED_00061, 0x1D5EE_1D607_00061, 0x1D608_1D621_00061,
    0x1D622_1D63B_00061, 0x1D63C_1D655_00061, 0x1D656_1D66F_00061, 0x1D670_1D689_00061,
    0x1D68A_1D6A3_00061, 0x1D6A4_1D6A4_00131, 0x1D6A5_1D6A5_00237, 0x1D6A8_1D6B8_003B1,
    0x1D6B9_1D6B9_003B8, 0x1D6BA_1D6C0_003C3, 0x1D6C1_1D6C1_02207, 0x1D6C2_1D6D2_003B1,
    0x1D6D3_1D6D3_003C3, 0x1D6D4_1D6DA_003C3, 0x1D6DB_1D6DB_02202, 0x1D6DC_1D6DC_003B5,
    0x1D6DD_1D6DD_003B8, 0x1D6DE_1D6DE_003BA, 0x1D6DF_1D6DF_003C6, 0x1D6E0_1D6E0_003C1,
    0x1D6E1_1D6E1_003C0, 0x1D6E2_1D6F2_003B1, 0x1D6F3_1D6F3_003B8, 0x1D6F4_1D6FA_003C3,
    0x1D6FB_1D6FB_02207, 0x1D6FC_1D70C_003B1, 0x1D70D_1D70D_003C3, 0x1D70E_1D714_003C3],
  [
    0x1D715_1D715_02202, 0x1D716_1D716_003B5, 0x1D717_1D717_003B8, 0x1D718_1D718_003BA,
    0x1D719_1D719_003C6, 0x1D71A_1D71A_003C1, 0x1D71B_1D71B_003C0, 0x1D71C_1D72C_003B1,
    0x1D72D_1D72D_003B8, 0x1D72E_1D734_003C3, 0x1D735_1D735_02207, 0x1D736_1D746_003B1,
    0x1D747_1D747_003C3, 0x1D748_1D74E_003C3, 0x1D74F_1D74F_02202, 0x1D750_1D750_003B5,
    0x1D751_1D751_003B8, 0x1D752_1D752_003BA, 0x1D753_1D753_003C6, 0x1D754_1D754_003C1,
    0x1D755_1D755_003C0, 0x1D756_1D766_003B1, 0x1D767_1D767_003B8, 0x1D768_1D76E_003C3,
    0x1D76F_1D76F_02207, 0x1D770_1D780_003B1, 0x1D781_1D781_003C3, 0x1D782_1D788_003C3,
    0x1D789_1D789_02202, 0x1D78A_1D78A_003B5, 0x1D78B_1D78B_003B8, 0x1D78C_1D78C_003BA,
    0x1D78D_1D78D_003C6, 0x1D78E_1D78E_003C1, 0x1D78F_1D78F_003C0, 0x1D790_1D7A0_003B1,
    0x1D7A1_1D7A1_003B8, 0x1D7A2_1D7A8_003C3, 0x1D7A9_1D7A9_02207, 0x1D7AA_1D7BA_003B1,
    0x1D7BB_1D7BB_003C3, 0x1D7BC_1D7C2_003C3, 0x1D7C3_1D7C3_02202, 0x1D7C4_1D7C4_003B5,
    0x1D7C5_1D7C5_003B8, 0x1D7C6_1D7C6_003BA, 0x1D7C7_1D7C7_003C6, 0x1D7C8_1D7C8_003C1,
    0x1D7C9_1D7C9_003C0, 0x1D7CA_1D7CA_003DD, 0x1D7CB_1D7CB_003DD, 0x1D7CE_1D7D7_00030,
    0x1D7D8_1D7E1_00030, 0x1D7E2_1D7EB_00030, 0x1D7EC_1D7F5_00030, 0x1D7F6_1D7FF_00030,
    0x1E030_1E038_00430, 0x1E039_1E03B_0043A, 0x1E03C_1E046_0043E, 0x1E047_1E047_0044B,
    0x1E048_1E049_0044D, 0x1E04A_1E04A_0A689, 0x1E04B_1E04B_004D9, 0x1E04C_1E04C_00456],
  [
    0x1E04D_1E04D_00458, 0x1E04E_1E04E_004E9, 0x1E04F_1E04F_004AF, 0x1E050_1E050_004CF,
    0x1E051_1E059_00430, 0x1E05A_1E05B_0043A, 0x1E05C_1E05D_0043E, 0x1E05E_1E05E_00441,
    0x1E05F_1E064_00443, 0x1E065_1E066_0044A, 0x1E067_1E067_00491, 0x1E068_1E068_00456,
    0x1E069_1E069_00455, 0x1E06A_1E06A_0045F, 0x1E06B_1E06B_004AB, 0x1E06C_1E06C_0A651,
    0x1E06D_1E06D_004B1, 0x1EE00_1EE01_00627, 0x1EE02_1EE02_0062C, 0x1EE03_1EE03_0062F,
    0x1EE05_1EE05_00648, 0x1EE06_1EE06_00632, 0x1EE07_1EE07_0062D, 0x1EE08_1EE08_00637,
    0x1EE09_1EE09_0064A, 0x1EE0A_1EE0D_00643, 0x1EE0E_1EE0E_00633, 0x1EE0F_1EE0F_00639,
    0x1EE10_1EE10_00641, 0x1EE11_1EE11_00635, 0x1EE12_1EE12_00642, 0x1EE13_1EE13_00631,
    0x1EE14_1EE14_00634, 0x1EE15_1EE16_0062A, 0x1EE17_1EE17_0062E, 0x1EE18_1EE18_00630,
    0x1EE19_1EE19_00636, 0x1EE1A_1EE1A_00638, 0x1EE1B_1EE1B_0063A, 0x1EE1C_1EE1C_0066E,
    0x1EE1D_1EE1D_006BA, 0x1EE1E_1EE1E_006A1, 0x1EE1F_1EE1F_0066F, 0x1EE21_1EE21_00628,
    0x1EE22_1EE22_0062C, 0x1EE24_1EE24_00647, 0x1EE27_1EE27_0062D, 0x1EE29_1EE29_0064A,
    0x1EE2A_1EE2D_00643, 0x1EE2E_1EE2E_00633, 0x1EE2F_1EE2F_00639, 0x1EE30_1EE30_00641,
    0x1EE31_1EE31_00635, 0x1EE32_1EE32_00642, 0x1EE34_1EE34_00634, 0x1EE35_1EE36_0062A,
    0x1EE37_1EE37_0062E, 0x1EE39_1EE39_00636, 0x1EE3B_1EE3B_0063A, 0x1EE42_1EE42_0062C,
    0x1EE47_1EE47_0062D, 0x1EE49_1EE49_0064A, 0x1EE4B_1EE4B_00644, 0x1EE4D_1EE4D_00646],
  [
    0x1EE4E_1EE4E_00633, 0x1EE4F_1EE4F_00639, 0x1EE51_1EE51_00635, 0x1EE52_1EE52_00642,
    0x1EE54_1EE54_00634, 0x1EE57_1EE57_0062E, 0x1EE59_1EE59_00636, 0x1EE5B_1EE5B_0063A,
    0x1EE5D_1EE5D_006BA, 0x1EE5F_1EE5F_0066F, 0x1EE61_1EE61_00628, 0x1EE62_1EE62_0062C,
    0x1EE64_1EE64_00647, 0x1EE67_1EE67_0062D, 0x1EE68_1EE68_00637, 0x1EE69_1EE69_0064A,
    0x1EE6A_1EE6A_00643, 0x1EE6C_1EE6D_00645, 0x1EE6E_1EE6E_00633, 0x1EE6F_1EE6F_00639,
    0x1EE70_1EE70_00641, 0x1EE71_1EE71_00635, 0x1EE72_1EE72_00642, 0x1EE74_1EE74_00634,
    0x1EE75_1EE76_0062A, 0x1EE77_1EE77_0062E, 0x1EE79_1EE79_00636, 0x1EE7A_1EE7A_00638,
    0x1EE7B_1EE7B_0063A, 0x1EE7C_1EE7C_0066E, 0x1EE7E_1EE7E_006A1, 0x1EE80_1EE81_00627,
    0x1EE82_1EE82_0062C, 0x1EE83_1EE83_0062F, 0x1EE84_1EE85_00647, 0x1EE86_1EE86_00632,
    0x1EE87_1EE87_0062D, 0x1EE88_1EE88_00637, 0x1EE89_1EE89_0064A, 0x1EE8B_1EE8D_00644,
    0x1EE8E_1EE8E_00633, 0x1EE8F_1EE8F_00639, 0x1EE90_1EE90_00641, 0x1EE91_1EE91_00635,
    0x1EE92_1EE92_00642, 0x1EE93_1EE93_00631, 0x1EE94_1EE94_00634, 0x1EE95_1EE96_0062A,
    0x1EE97_1EE97_0062E, 0x1EE98_1EE98_00630, 0x1EE99_1EE99_00636, 0x1EE9A_1EE9A_00638,
    0x1EE9B_1EE9B_0063A, 0x1EEA1_1EEA1_00628, 0x1EEA2_1EEA2_0062C, 0x1EEA3_1EEA3_0062F,
    0x1EEA5_1EEA5_00648, 0x1EEA6_1EEA6_00632, 0x1EEA7_1EEA7_0062D, 0x1EEA8_1EEA8_00637,
    0x1EEA9_1EEA9_0064A, 0x1EEAB_1EEAD_00644, 0x1EEAE_1EEAE_00633, 0x1EEAF_1EEAF_00639],
  [
    0x1EEB0_1EEB0_00641, 0x1EEB1_1EEB1_00635, 0x1EEB2_1EEB2_00642, 0x1EEB3_1EEB3_00631,
    0x1EEB4_1EEB4_00634, 0x1EEB5_1EEB6_0062A, 0x1EEB7_1EEB7_0062E, 0x1EEB8_1EEB8_00630,
    0x1EEB9_1EEB9_00636, 0x1EEBA_1EEBA_00638, 0x1EEBB_1EEBB_0063A, 0x1F12B_1F12B_00063,
    0x1F12C_1F12C_00072, 0x1F130_1F149_00061, 0x1F202_1F202_030B5, 0x1F210_1F210_0624B,
    0x1F211_1F211_05B57, 0x1F212_1F212_053CC, 0x1F213_1F213_030C7, 0x1F214_1F214_04E8C,
    0x1F215_1F215_0591A, 0x1F216_1F216_089E3, 0x1F217_1F217_05929, 0x1F218_1F218_04EA4,
    0x1F219_1F219_06620, 0x1F21A_1F21A_07121, 0x1F21B_1F21B_06599, 0x1F21C_1F21C_0524D,
    0x1F21D_1F21D_05F8C, 0x1F21E_1F21E_0518D, 0x1F21F_1F21F_065B0, 0x1F220_1F220_0521D,
    0x1F221_1F221_07D42, 0x1F222_1F222_0751F, 0x1F223_1F223_08CA9, 0x1F224_1F224_058F0,
    0x1F225_1F225_05439, 0x1F226_1F226_06F14, 0x1F227_1F227_06295, 0x1F228_1F228_06355,
    0x1F229_1F229_04E00, 0x1F22A_1F22A_04E09, 0x1F22B_1F22B_0904A, 0x1F22C_1F22C_05DE6,
    0x1F22D_1F22D_04E2D, 0x1F22E_1F22E_053F3, 0x1F22F_1F22F_06307, 0x1F230_1F230_08D70,
    0x1F231_1F231_06253, 0x1F232_1F232_07981, 0x1F233_1F233_07A7A, 0x1F234_1F234_05408,
    0x1F235_1F235_06E80, 0x1F236_1F236_06709, 0x1F237_1F237_06708, 0x1F238_1F238_07533,
    0x1F239_1F239_05272, 0x1F23A_1F23A_055B6, 0x1F23B_1F23B_0914D, 0x1F250_1F250_05F97,
    0x1F251_1F251_053EF, 0x1FBF0_1FBF9_00030]]

/-- Each entry gives a character and the two or more characters that replace it. -/
def expansions : List (List (Nat × Nat)) := [
  [
    (0x000A8, 0x00020_00308), (0x000AF, 0x00020_00304), (0x000B4, 0x00020_00301),
    (0x000B8, 0x00020_00327), (0x000BC, 0x00031_02044_00034), (0x000BD, 0x00031_02044_00032),
    (0x000BE, 0x00033_02044_00034), (0x00133, 0x00069_0006A), (0x00140, 0x0006C_000B7),
    (0x00149, 0x002BC_0006E), (0x001C6, 0x00064_0017E), (0x001C9, 0x0006C_0006A),
    (0x001CC, 0x0006E_0006A), (0x001F3, 0x00064_0007A), (0x002D8, 0x00020_00306),
    (0x002D9, 0x00020_00307), (0x002DA, 0x00020_0030A), (0x002DB, 0x00020_00328),
    (0x002DC, 0x00020_00303), (0x002DD, 0x00020_0030B), (0x0037A, 0x00020_003B9),
    (0x00384, 0x00020_00301), (0x00385, 0x00020_00308_00301), (0x00587, 0x00565_00582),
    (0x00675, 0x00627_00674), (0x00676, 0x00648_00674), (0x00677, 0x006C7_00674),
    (0x00678, 0x0064A_00674), (0x00E33, 0x00E4D_00E32), (0x00EB3, 0x00ECD_00EB2),
    (0x00EDC, 0x00EAB_00E99), (0x00EDD, 0x00EAB_00EA1), (0x00F77, 0x00FB2_00F71_00F80),
    (0x00F79, 0x00FB3_00F71_00F80), (0x01E9A, 0x00061_002BE), (0x01F80, 0x01F00_003B9),
    (0x01F81, 0x01F01_003B9), (0x01F82, 0x01F02_003B9), (0x01F83, 0x01F03_003B9),
    (0x01F84, 0x01F04_003B9), (0x01F85, 0x01F05_003B9), (0x01F86, 0x01F06_003B9),
    (0x01F87, 0x01F07_003B9), (0x01F90, 0x01F20_003B9), (0x01F91, 0x01F21_003B9),
    (0x01F92, 0x01F22_003B9), (0x01F93, 0x01F23_003B9), (0x01F94, 0x01F24_003B9),
    (0x01F95, 0x01F25_003B9), (0x01F96, 0x01F26_003B9), (0x01F97, 0x01F27_003B9),
    (0x01FA0, 0x01F60_003B9), (0x01FA1, 0x01F61_003B9), (0x01FA2, 0x01F62_003B9),
    (0x01FA3, 0x01F63_003B9), (0x01FA4, 0x01F64_003B9), (0x01FA5, 0x01F65_003B9),
    (0x01FA6, 0x01F66_003B9), (0x01FA7, 0x01F67_003B9), (0x01FB2, 0x01F70_003B9),
    (0x01FB3, 0x003B1_003B9), (0x01FB4, 0x003AC_003B9), (0x01FB7, 0x01FB6_003B9),
    (0x01FBD, 0x00020_00313)],
  [
    (0x01FBF, 0x00020_00313), (0x01FC0, 0x00020_00342), (0x01FC1, 0x00020_00308_00342),
    (0x01FC2, 0x01F74_003B9), (0x01FC3, 0x003B7_003B9), (0x01FC4, 0x003AE_003B9),
    (0x01FC7, 0x01FC6_003B9), (0x01FCD, 0x00020_00313_00300), (0x01FCE, 0x00020_00313_00301),
    (0x01FCF, 0x00020_00313_00342), (0x01FDD, 0x00020_00314_00300), (0x01FDE, 0x00020_00314_00301),
    (0x01FDF, 0x00020_00314_00342), (0x01FED, 0x00020_00308_00300), (0x01FEE, 0x00020_00308_00301),
    (0x01FF2, 0x01F7C_003B9), (0x01FF3, 0x003C9_003B9), (0x01FF4, 0x003CE_003B9),
    (0x01FF7, 0x01FF6_003B9), (0x01FFD, 0x00020_00301), (0x01FFE, 0x00020_00314),
    (0x02017, 0x00020_00333), (0x02033, 0x02032_02032), (0x02034, 0x02032_02032_02032),
    (0x02036, 0x02035_02035), (0x02037, 0x02035_02035_02035), (0x0203C, 0x00021_00021),
    (0x0203E, 0x00020_00305), (0x02047, 0x0003F_0003F), (0x02048, 0x0003F_00021),
    (0x02049, 0x00021_0003F), (0x02057, 0x02032_02032_02032_02032), (0x020A8, 0x00072_00073),
    (0x02100, 0x00061_0002F_00063), (0x02101, 0x00061_0002F_00073), (0x02103, 0x000B0_00063),
    (0x02105, 0x00063_0002F_0006F), (0x02106, 0x00063_0002F_00075), (0x02109, 0x000B0_00066),
    (0x02116, 0x0006E_0006F), (0x02120, 0x00073_0006D), (0x02121, 0x00074_00065_0006C),
    (0x02122, 0x00074_0006D), (0x0213B, 0x00066_00061_00078), (0x02150, 0x00031_02044_00037),
    (0x02151, 0x00031_02044_00039), (0x02152, 0x00031_02044_00031_00030),
    (0x02153, 0x00031_02044_00033), (0x02154, 0x00032_02044_00033), (0x02155, 0x00031_02044_00035),
    (0x02156, 0x00032_02044_00035), (0x02157, 0x00033_02044_00035), (0x02158, 0x00034_02044_00035),
    (0x02159, 0x00031_02044_00036), (0x0215A, 0x00035_02044_00036), (0x0215B, 0x00031_02044_00038),
    (0x0215C, 0x00033_02044_00038), (0x0215D, 0x00035_02044_00038), (0x0215E, 0x00037_02044_00038),
    (0x0215F, 0x00031_02044), (0x02171, 0x00069_00069), (0x02172, 0x00069_00069_00069),
    (0x02173, 0x00069_00076), (0x02175, 0x00076_00069)],
  [
    (0x02176, 0x00076_00069_00069), (0x02177, 0x00076_00069_00069_00069), (0x02178, 0x00069_00078),
    (0x0217A, 0x00078_00069), (0x0217B, 0x00078_00069_00069), (0x02189, 0x00030_02044_00033),
    (0x0222C, 0x0222B_0222B), (0x0222D, 0x0222B_0222B_0222B), (0x0222F, 0x0222E_0222E),
    (0x02230, 0x0222E_0222E_0222E), (0x02469, 0x00031_00030), (0x0246A, 0x00031_00031),
    (0x0246B, 0x00031_00032), (0x0246C, 0x00031_00033), (0x0246D, 0x00031_00034),
    (0x0246E, 0x00031_00035), (0x0246F, 0x00031_00036), (0x02470, 0x00031_00037),
    (0x02471, 0x00031_00038), (0x02472, 0x00031_00039), (0x02473, 0x00032_00030),
    (0x02474, 0x00028_00031_00029), (0x02475, 0x00028_00032_00029), (0x02476, 0x00028_00033_00029),
    (0x02477, 0x00028_00034_00029), (0x02478, 0x00028_00035_00029), (0x02479, 0x00028_00036_00029),
    (0x0247A, 0x00028_00037_00029), (0x0247B, 0x00028_00038_00029), (0x0247C, 0x00028_00039_00029),
    (0x0247D, 0x00028_00031_00030_00029), (0x0247E, 0x00028_00031_00031_00029),
    (0x0247F, 0x00028_00031_00032_00029), (0x02480, 0x00028_00031_00033_00029),
    (0x02481, 0x00028_00031_00034_00029), (0x02482, 0x00028_00031_00035_00029),
    (0x02483, 0x00028_00031_00036_00029), (0x02484, 0x00028_00031_00037_00029),
    (0x02485, 0x00028_00031_00038_00029), (0x02486, 0x00028_00031_00039_00029),
    (0x02487, 0x00028_00032_00030_00029), (0x0249C, 0x00028_00061_00029),
    (0x0249D, 0x00028_00062_00029), (0x0249E, 0x00028_00063_00029), (0x0249F, 0x00028_00064_00029),
    (0x024A0, 0x00028_00065_00029), (0x024A1, 0x00028_00066_00029), (0x024A2, 0x00028_00067_00029),
    (0x024A3, 0x00028_00068_00029), (0x024A4, 0x00028_00069_00029), (0x024A5, 0x00028_0006A_00029),
    (0x024A6, 0x00028_0006B_00029), (0x024A7, 0x00028_0006C_00029), (0x024A8, 0x00028_0006D_00029),
    (0x024A9, 0x00028_0006E_00029), (0x024AA, 0x00028_0006F_00029), (0x024AB, 0x00028_00070_00029),
    (0x024AC, 0x00028_00071_00029), (0x024AD, 0x00028_00072_00029), (0x024AE, 0x00028_00073_00029),
    (0x024AF, 0x00028_00074_00029), (0x024B0, 0x00028_00075_00029), (0x024B1, 0x00028_00076_00029),
    (0x024B2, 0x00028_00077_00029)],
  [
    (0x024B3, 0x00028_00078_00029), (0x024B4, 0x00028_00079_00029), (0x024B5, 0x00028_0007A_00029),
    (0x02A0C, 0x0222B_0222B_0222B_0222B), (0x02A74, 0x0003A_0003A_0003D), (0x02A75, 0x0003D_0003D),
    (0x02A76, 0x0003D_0003D_0003D), (0x0309B, 0x00020_03099), (0x0309C, 0x00020_0309A),
    (0x0309F, 0x03088_0308A), (0x030FF, 0x030B3_030C8), (0x03200, 0x00028_01100_00029),
    (0x03201, 0x00028_01102_00029), (0x03202, 0x00028_01103_00029), (0x03203, 0x00028_01105_00029),
    (0x03204, 0x00028_01106_00029), (0x03205, 0x00028_01107_00029), (0x03206, 0x00028_01109_00029),
    (0x03207, 0x00028_0110B_00029), (0x03208, 0x00028_0110C_00029), (0x03209, 0x00028_0110E_00029),
    (0x0320A, 0x00028_0110F_00029), (0x0320B, 0x00028_01110_00029), (0x0320C, 0x00028_01111_00029),
    (0x0320D, 0x00028_01112_00029), (0x0320E, 0x00028_0AC00_00029), (0x0320F, 0x00028_0B098_00029),
    (0x03210, 0x00028_0B2E4_00029), (0x03211, 0x00028_0B77C_00029), (0x03212, 0x00028_0B9C8_00029),
    (0x03213, 0x00028_0BC14_00029), (0x03214, 0x00028_0C0AC_00029), (0x03215, 0x00028_0C544_00029),
    (0x03216, 0x00028_0C790_00029), (0x03217, 0x00028_0CC28_00029), (0x03218, 0x00028_0CE74_00029),
    (0x03219, 0x00028_0D0C0_00029), (0x0321A, 0x00028_0D30C_00029), (0x0321B, 0x00028_0D558_00029),
    (0x0321C, 0x00028_0C8FC_00029), (0x0321D, 0x00028_0C624_0C804_00029),
    (0x0321E, 0x00028_0C624_0D6C4_00029), (0x03220, 0x00028_04E00_00029),
    (0x03221, 0x00028_04E8C_00029), (0x03222, 0x00028_04E09_00029), (0x03223, 0x00028_056DB_00029),
    (0x03224, 0x00028_04E94_00029), (0x03225, 0x00028_0516D_00029), (0x03226, 0x00028_04E03_00029),
    (0x03227, 0x00028_0516B_00029), (0x03228, 0x00028_04E5D_00029), (0x03229, 0x00028_05341_00029),
    (0x0322A, 0x00028_06708_00029), (0x0322B, 0x00028_0706B_00029), (0x0322C, 0x00028_06C34_00029),
    (0x0322D, 0x00028_06728_00029), (0x0322E, 0x00028_091D1_00029), (0x0322F, 0x00028_0571F_00029),
    (0x03230, 0x00028_065E5_00029), (0x03231, 0x00028_0682A_00029), (0x03232, 0x00028_06709_00029),
    (0x03233, 0x00028_0793E_00029), (0x03234, 0x00028_0540D_00029), (0x03235, 0x00028_07279_00029)],
  [
    (0x03236, 0x00028_08CA1_00029), (0x03237, 0x00028_0795D_00029), (0x03238, 0x00028_052B4_00029),
    (0x03239, 0x00028_04EE3_00029), (0x0323A, 0x00028_0547C_00029), (0x0323B, 0x00028_05B66_00029),
    (0x0323C, 0x00028_076E3_00029), (0x0323D, 0x00028_04F01_00029), (0x0323E, 0x00028_08CC7_00029),
    (0x0323F, 0x00028_05354_00029), (0x03240, 0x00028_0796D_00029), (0x03241, 0x00028_04F11_00029),
    (0x03242, 0x00028_081EA_00029), (0x03243, 0x00028_081F3_00029), (0x03250, 0x00070_00074_00065),
    (0x03251, 0x00032_00031), (0x03252, 0x00032_00032), (0x03253, 0x00032_00033),
    (0x03254, 0x00032_00034), (0x03255, 0x00032_00035), (0x03256, 0x00032_00036),
    (0x03257, 0x00032_00037), (0x03258, 0x00032_00038), (0x03259, 0x00032_00039),
    (0x0325A, 0x00033_00030), (0x0325B, 0x00033_00031), (0x0325C, 0x00033_00032),
    (0x0325D, 0x00033_00033), (0x0325E, 0x00033_00034), (0x0325F, 0x00033_00035),
    (0x0327C, 0x0CC38_0ACE0), (0x0327D, 0x0C8FC_0C758), (0x032B1, 0x00033_00036),
    (0x032B2, 0x00033_00037), (0x032B3, 0x00033_00038), (0x032B4, 0x00033_00039),
    (0x032B5, 0x00034_00030), (0x032B6, 0x00034_00031), (0x032B7, 0x00034_00032),
    (0x032B8, 0x00034_00033), (0x032B9, 0x00034_00034), (0x032BA, 0x00034_00035),
    (0x032BB, 0x00034_00036), (0x032BC, 0x00034_00037), (0x032BD, 0x00034_00038),
    (0x032BE, 0x00034_00039), (0x032BF, 0x00035_00030), (0x032C0, 0x00031_06708),
    (0x032C1, 0x00032_06708), (0x032C2, 0x00033_06708), (0x032C3, 0x00034_06708),
    (0x032C4, 0x00035_06708), (0x032C5, 0x00036_06708), (0x032C6, 0x00037_06708),
    (0x032C7, 0x00038_06708), (0x032C8, 0x00039_06708), (0x032C9, 0x00031_00030_06708),
    (0x032CA, 0x00031_00031_06708), (0x032CB, 0x00031_00032_06708), (0x032CC, 0x00068_00067),
    (0x032CD, 0x00065_00072_00067), (0x032CE, 0x00065_00076), (0x032CF, 0x0006C_00074_00064),
    (0x032FF, 0x04EE4_0548C)],
  [
    (0x03300, 0x030A2_030D1_030FC_030C8), (0x03301, 0x030A2_030EB_030D5_030A1),
    (0x03302, 0x030A2_030F3_030DA_030A2), (0x03303, 0x030A2_030FC_030EB),
    (0x03304, 0x030A4_030CB_030F3_030B0), (0x03305, 0x030A4_030F3_030C1),
    (0x03306, 0x030A6_030A9_030F3), (0x03307, 0x030A8_030B9_030AF_030FC_030C9),
    (0x03308, 0x030A8_030FC_030AB_030FC), (0x03309, 0x030AA_030F3_030B9),
    (0x0330A, 0x030AA_030FC_030E0), (0x0330B, 0x030AB_030A4_030EA),
    (0x0330C, 0x030AB_030E9_030C3_030C8), (0x0330D, 0x030AB_030ED_030EA_030FC),
    (0x0330E, 0x030AC_030ED_030F3), (0x0330F, 0x030AC_030F3_030DE), (0x03310, 0x030AE_030AC),
    (0x03311, 0x030AE_030CB_030FC), (0x03312, 0x030AD_030E5_030EA_030FC),
    (0x03313, 0x030AE_030EB_030C0_030FC), (0x03314, 0x030AD_030ED),
    (0x03315, 0x030AD_030ED_030B0_030E9_030E0), (0x03316, 0x030AD_030ED_030E1_030FC_030C8_030EB),
    (0x03317, 0x030AD_030ED_030EF_030C3_030C8), (0x03318, 0x030B0_030E9_030E0),
    (0x03319, 0x030B0_030E9_030E0_030C8_030F3), (0x0331A, 0x030AF_030EB_030BC_030A4_030ED),
    (0x0331B, 0x030AF_030ED_030FC_030CD), (0x0331C, 0x030B1_030FC_030B9),
    (0x0331D, 0x030B3_030EB_030CA), (0x0331E, 0x030B3_030FC_030DD),
    (0x0331F, 0x030B5_030A4_030AF_030EB), (0x03320, 0x030B5_030F3_030C1_030FC_030E0),
    (0x03321, 0x030B7_030EA_030F3_030B0), (0x03322, 0x030BB_030F3_030C1),
    (0x03323, 0x030BB_030F3_030C8), (0x03324, 0x030C0_030FC_030B9), (0x03325, 0x030C7_030B7),
    (0x03326, 0x030C9_030EB), (0x03327, 0x030C8_030F3), (0x03328, 0x030CA_030CE),
    (0x03329, 0x030CE_030C3_030C8), (0x0332A, 0x030CF_030A4_030C4),
    (0x0332B, 0x030D1_030FC_030BB_030F3_030C8), (0x0332C, 0x030D1_030FC_030C4),
    (0x0332D, 0x030D0_030FC_030EC_030EB), (0x0332E, 0x030D4_030A2_030B9_030C8_030EB),
    (0x0332F, 0x030D4_030AF_030EB), (0x03330, 0x030D4_030B3), (0x03331, 0x030D3_030EB),
    (0x03332, 0x030D5_030A1_030E9_030C3_030C9), (0x03333, 0x030D5_030A3_030FC_030C8),
    (0x03334, 0x030D6_030C3_030B7_030A7_030EB), (0x03335, 0x030D5_030E9_030F3),
    (0x03336, 0x030D8_030AF_030BF_030FC_030EB), (0x03337, 0x030DA_030BD),
    (0x03338, 0x030DA_030CB_030D2), (0x03339, 0x030D8_030EB_030C4), (0x0333A, 0x030DA_030F3_030B9),
    (0x0333B, 0x030DA_030FC_030B8), (0x0333C, 0x030D9_030FC_030BF),
    (0x0333D, 0x030DD_030A4_030F3_030C8), (0x0333E, 0x030DC_030EB_030C8), (0x0333F, 0x030DB_030F3)],
  [
    (0x03340, 0x030DD_030F3_030C9), (0x03341, 0x030DB_030FC_030EB), (0x03342, 0x030DB_030FC_030F3),
    (0x03343, 0x030DE_030A4_030AF_030ED), (0x03344, 0x030DE_030A4_030EB),
    (0x03345, 0x030DE_030C3_030CF), (0x03346, 0x030DE_030EB_030AF),
    (0x03347, 0x030DE_030F3_030B7_030E7_030F3), (0x03348, 0x030DF_030AF_030ED_030F3),
    (0x03349, 0x030DF_030EA), (0x0334A, 0x030DF_030EA_030D0_030FC_030EB), (0x0334B, 0x030E1_030AC),
    (0x0334C, 0x030E1_030AC_030C8_030F3), (0x0334D, 0x030E1_030FC_030C8_030EB),
    (0x0334E, 0x030E4_030FC_030C9), (0x0334F, 0x030E4_030FC_030EB), (0x03350, 0x030E6_030A2_030F3),
    (0x03351, 0x030EA_030C3_030C8_030EB), (0x03352, 0x030EA_030E9), (0x03353, 0x030EB_030D4_030FC),
    (0x03354, 0x030EB_030FC_030D6_030EB), (0x03355, 0x030EC_030E0),
    (0x03356, 0x030EC_030F3_030C8_030B2_030F3), (0x03357, 0x030EF_030C3_030C8),
    (0x03358, 0x00030_070B9), (0x03359, 0x00031_070B9), (0x0335A, 0x00032_070B9),
    (0x0335B, 0x00033_070B9), (0x0335C, 0x00034_070B9), (0x0335D, 0x00035_070B9),
    (0x0335E, 0x00036_070B9), (0x0335F, 0x00037_070B9), (0x03360, 0x00038_070B9),
    (0x03361, 0x00039_070B9), (0x03362, 0x00031_00030_070B9), (0x03363, 0x00031_00031_070B9),
    (0x03364, 0x00031_00032_070B9), (0x03365, 0x00031_00033_070B9), (0x03366, 0x00031_00034_070B9),
    (0x03367, 0x00031_00035_070B9), (0x03368, 0x00031_00036_070B9), (0x03369, 0x00031_00037_070B9),
    (0x0336A, 0x00031_00038_070B9), (0x0336B, 0x00031_00039_070B9), (0x0336C, 0x00032_00030_070B9),
    (0x0336D, 0x00032_00031_070B9), (0x0336E, 0x00032_00032_070B9), (0x0336F, 0x00032_00033_070B9),
    (0x03370, 0x00032_00034_070B9), (0x03371, 0x00068_00070_00061), (0x03372, 0x00064_00061),
    (0x03373, 0x00061_00075), (0x03374, 0x00062_00061_00072), (0x03375, 0x0006F_00076),
    (0x03376, 0x00070_00063), (0x03377, 0x00064_0006D), (0x03378, 0x00064_0006D_00032),
    (0x03379, 0x00064_0006D_00033), (0x0337A, 0x00069_00075), (0x0337B, 0x05E73_06210),
    (0x0337C, 0x0662D_0548C), (0x0337D, 0x05927_06B63), (0x0337E, 0x0660E_06CBB),
    (0x0337F, 0x0682A_05F0F_04F1A_0793E)],
  [
    (0x03380, 0x00070_00061), (0x03381, 0x0006E_00061), (0x03382, 0x003BC_00061),
    (0x03383, 0x0006D_00061), (0x03384, 0x0006B_00061), (0x03385, 0x0006B_00062),
    (0x03386, 0x0006D_00062), (0x03387, 0x00067_00062), (0x03388, 0x00063_00061_0006C),
    (0x03389, 0x0006B_00063_00061_0006C), (0x0338A, 0x00070_00066), (0x0338B, 0x0006E_00066),
    (0x0338C, 0x003BC_00066), (0x0338D, 0x003BC_00067), (0x0338E, 0x0006D_00067),
    (0x0338F, 0x0006B_00067), (0x03390, 0x00068_0007A), (0x03391, 0x0006B_00068_0007A),
    (0x03392, 0x0006D_00068_0007A), (0x03393, 0x00067_00068_0007A), (0x03394, 0x00074_00068_0007A),
    (0x03395, 0x003BC_0006C), (0x03396, 0x0006D_0006C), (0x03397, 0x00064_0006C),
    (0x03398, 0x0006B_0006C), (0x03399, 0x00066_0006D), (0x0339A, 0x0006E_0006D),
    (0x0339B, 0x003BC_0006D), (0x0339C, 0x0006D_0006D), (0x0339D, 0x00063_0006D),
    (0x0339E, 0x0006B_0006D), (0x0339F, 0x0006D_0006D_00032), (0x033A0, 0x00063_0006D_00032),
    (0x033A1, 0x0006D_00032), (0x033A2, 0x0006B_0006D_00032), (0x033A3, 0x0006D_0006D_00033),
    (0x033A4, 0x00063_0006D_00033), (0x033A5, 0x0006D_00033), (0x033A6, 0x0006B_0006D_00033),
    (0x033A7, 0x0006D_02215_00073), (0x033A8, 0x0006D_02215_00073_00032), (0x033A9, 0x00070_00061),
    (0x033AA, 0x0006B_00070_00061), (0x033AB, 0x0006D_00070_00061), (0x033AC, 0x00067_00070_00061),
    (0x033AD, 0x00072_00061_00064), (0x033AE, 0x00072_00061_00064_02215_00073),
    (0x033AF, 0x00072_00061_00064_02215_00073_00032), (0x033B0, 0x00070_00073),
    (0x033B1, 0x0006E_00073), (0x033B2, 0x003BC_00073), (0x033B3, 0x0006D_00073),
    (0x033B4, 0x00070_00076), (0x033B5, 0x0006E_00076), (0x033B6, 0x003BC_00076),
    (0x033B7, 0x0006D_00076), (0x033B8, 0x0006B_00076), (0x033B9, 0x0006D_00076),
    (0x033BA, 0x00070_00077), (0x033BB, 0x0006E_00077), (0x033BC, 0x003BC_00077),
    (0x033BD, 0x0006D_00077), (0x033BE, 0x0006B_00077), (0x033BF, 0x0006D_00077)],
  [
    (0x033C0, 0x0006B_003C9), (0x033C1, 0x0006D_003C9), (0x033C3, 0x00062_00071),
    (0x033C4, 0x00063_00063), (0x033C5, 0x00063_00064), (0x033C6, 0x00063_02215_0006B_00067),
    (0x033C8, 0x00064_00062), (0x033C9, 0x00067_00079), (0x033CA, 0x00068_00061),
    (0x033CB, 0x00068_00070), (0x033CC, 0x00069_0006E), (0x033CD, 0x0006B_0006B),
    (0x033CE, 0x0006B_0006D), (0x033CF, 0x0006B_00074), (0x033D0, 0x0006C_0006D),
    (0x033D1, 0x0006C_0006E), (0x033D2, 0x0006C_0006F_00067), (0x033D3, 0x0006C_00078),
    (0x033D4, 0x0006D_00062), (0x033D5, 0x0006D_00069_0006C), (0x033D6, 0x0006D_0006F_0006C),
    (0x033D7, 0x00070_00068), (0x033D9, 0x00070_00070_0006D), (0x033DA, 0x00070_00072),
    (0x033DB, 0x00073_00072), (0x033DC, 0x00073_00076), (0x033DD, 0x00077_00062),
    (0x033DE, 0x00076_02215_0006D), (0x033DF, 0x00061_02215_0006D), (0x033E0, 0x00031_065E5),
    (0x033E1, 0x00032_065E5), (0x033E2, 0x00033_065E5), (0x033E3, 0x00034_065E5),
    (0x033E4, 0x00035_065E5), (0x033E5, 0x00036_065E5), (0x033E6, 0x00037_065E5),
    (0x033E7, 0x00038_065E5), (0x033E8, 0x00039_065E5), (0x033E9, 0x00031_00030_065E5),
    (0x033EA, 0x00031_00031_065E5), (0x033EB, 0x00031_00032_065E5), (0x033EC, 0x00031_00033_065E5),
    (0x033ED, 0x00031_00034_065E5), (0x033EE, 0x00031_00035_065E5), (0x033EF, 0x00031_00036_065E5),
    (0x033F0, 0x00031_00037_065E5), (0x033F1, 0x00031_00038_065E5), (0x033F2, 0x00031_00039_065E5),
    (0x033F3, 0x00032_00030_065E5), (0x033F4, 0x00032_00031_065E5), (0x033F5, 0x00032_00032_065E5),
    (0x033F6, 0x00032_00033_065E5), (0x033F7, 0x00032_00034_065E5), (0x033F8, 0x00032_00035_065E5),
    (0x033F9, 0x00032_00036_065E5), (0x033FA, 0x00032_00037_065E5), (0x033FB, 0x00032_00038_065E5),
    (0x033FC, 0x00032_00039_065E5), (0x033FD, 0x00033_00030_065E5), (0x033FE, 0x00033_00031_065E5),
    (0x033FF, 0x00067_00061_0006C), (0x0FB00, 0x00066_00066), (0x0FB01, 0x00066_00069),
    (0x0FB02, 0x00066_0006C)],
  [
    (0x0FB03, 0x00066_00066_00069), (0x0FB04, 0x00066_00066_0006C), (0x0FB05, 0x00073_00074),
    (0x0FB06, 0x00073_00074), (0x0FB13, 0x00574_00576), (0x0FB14, 0x00574_00565),
    (0x0FB15, 0x00574_0056B), (0x0FB16, 0x0057E_00576), (0x0FB17, 0x00574_0056D),
    (0x0FB4F, 0x005D0_005DC), (0x0FBDD, 0x006C7_00674), (0x0FBEA, 0x00626_00627),
    (0x0FBEB, 0x00626_00627), (0x0FBEC, 0x00626_006D5), (0x0FBED, 0x00626_006D5),
    (0x0FBEE, 0x00626_00648), (0x0FBEF, 0x00626_00648), (0x0FBF0, 0x00626_006C7),
    (0x0FBF1, 0x00626_006C7), (0x0FBF2, 0x00626_006C6), (0x0FBF3, 0x00626_006C6),
    (0x0FBF4, 0x00626_006C8), (0x0FBF5, 0x00626_006C8), (0x0FBF6, 0x00626_006D0),
    (0x0FBF7, 0x00626_006D0), (0x0FBF8, 0x00626_006D0), (0x0FBF9, 0x00626_00649),
    (0x0FBFA, 0x00626_00649), (0x0FBFB, 0x00626_00649), (0x0FC00, 0x00626_0062C),
    (0x0FC01, 0x00626_0062D), (0x0FC02, 0x00626_00645), (0x0FC03, 0x00626_00649),
    (0x0FC04, 0x00626_0064A), (0x0FC05, 0x00628_0062C), (0x0FC06, 0x00628_0062D),
    (0x0FC07, 0x00628_0062E), (0x0FC08, 0x00628_00645), (0x0FC09, 0x00628_00649),
    (0x0FC0A, 0x00628_0064A), (0x0FC0B, 0x0062A_0062C), (0x0FC0C, 0x0062A_0062D),
    (0x0FC0D, 0x0062A_0062E), (0x0FC0E, 0x0062A_00645), (0x0FC0F, 0x0062A_00649),
    (0x0FC10, 0x0062A_0064A), (0x0FC11, 0x0062B_0062C), (0x0FC12, 0x0062B_00645),
    (0x0FC13, 0x0062B_00649), (0x0FC14, 0x0062B_0064A), (0x0FC15, 0x0062C_0062D),
    (0x0FC16, 0x0062C_00645), (0x0FC17, 0x0062D_0062C), (0x0FC18, 0x0062D_00645),
    (0x0FC19, 0x0062E_0062C), (0x0FC1A, 0x0062E_0062D), (0x0FC1B, 0x0062E_00645),
    (0x0FC1C, 0x00633_0062C), (0x0FC1D, 0x00633_0062D), (0x0FC1E, 0x00633_0062E),
    (0x0FC1F, 0x00633_00645), (0x0FC20, 0x00635_0062D), (0x0FC21, 0x00635_00645),
    (0x0FC22, 0x00636_0062C)],
  [
    (0x0FC23, 0x00636_0062D), (0x0FC24, 0x00636_0062E), (0x0FC25, 0x00636_00645),
    (0x0FC26, 0x00637_0062D), (0x0FC27, 0x00637_00645), (0x0FC28, 0x00638_00645),
    (0x0FC29, 0x00639_0062C), (0x0FC2A, 0x00639_00645), (0x0FC2B, 0x0063A_0062C),
    (0x0FC2C, 0x0063A_00645), (0x0FC2D, 0x00641_0062C), (0x0FC2E, 0x00641_0062D),
    (0x0FC2F, 0x00641_0062E), (0x0FC30, 0x00641_00645), (0x0FC31, 0x00641_00649),
    (0x0FC32, 0x00641_0064A), (0x0FC33, 0x00642_0062D), (0x0FC34, 0x00642_00645),
    (0x0FC35, 0x00642_00649), (0x0FC36, 0x00642_0064A), (0x0FC37, 0x00643_00627),
    (0x0FC38, 0x00643_0062C), (0x0FC39, 0x00643_0062D), (0x0FC3A, 0x00643_0062E),
    (0x0FC3B, 0x00643_00644), (0x0FC3C, 0x00643_00645), (0x0FC3D, 0x00643_00649),
    (0x0FC3E, 0x00643_0064A), (0x0FC3F, 0x00644_0062C), (0x0FC40, 0x00644_0062D),
    (0x0FC41, 0x00644_0062E), (0x0FC42, 0x00644_00645), (0x0FC43, 0x00644_00649),
    (0x0FC44, 0x00644_0064A), (0x0FC45, 0x00645_0062C), (0x0FC46, 0x00645_0062D),
    (0x0FC47, 0x00645_0062E), (0x0FC48, 0x00645_00645), (0x0FC49, 0x00645_00649),
    (0x0FC4A, 0x00645_0064A), (0x0FC4B, 0x00646_0062C), (0x0FC4C, 0x00646_0062D),
    (0x0FC4D, 0x00646_0062E), (0x0FC4E, 0x00646_00645), (0x0FC4F, 0x00646_00649),
    (0x0FC50, 0x00646_0064A), (0x0FC51, 0x00647_0062C), (0x0FC52, 0x00647_00645),
    (0x0FC53, 0x00647_00649), (0x0FC54, 0x00647_0064A), (0x0FC55, 0x0064A_0062C),
    (0x0FC56, 0x0064A_0062D), (0x0FC57, 0x0064A_0062E), (0x0FC58, 0x0064A_00645),
    (0x0FC59, 0x0064A_00649), (0x0FC5A, 0x0064A_0064A), (0x0FC5B, 0x00630_00670),
    (0x0FC5C, 0x00631_00670), (0x0FC5D, 0x00649_00670), (0x0FC5E, 0x00020_0064C_00651),
    (0x0FC5F, 0x00020_0064D_00651), (0x0FC60, 0x00020_0064E_00651), (0x0FC61, 0x00020_0064F_00651),
    (0x0FC62, 0x00020_00650_00651)],
  [
    (0x0FC63, 0x00020_00651_00670), (0x0FC64, 0x00626_00631), (0x0FC65, 0x00626_00632),
    (0x0FC66, 0x00626_00645), (0x0FC67, 0x00626_00646), (0x0FC68, 0x00626_00649),
    (0x0FC69, 0x00626_0064A), (0x0FC6A, 0x00628_00631), (0x0FC6B, 0x00628_00632),
    (0x0FC6C, 0x00628_00645), (0x0FC6D, 0x00628_00646), (0x0FC6E, 0x00628_00649),
    (0x0FC6F, 0x00628_0064A), (0x0FC70, 0x0062A_00631), (0x0FC71, 0x0062A_00632),
    (0x0FC72, 0x0062A_00645), (0x0FC73, 0x0062A_00646), (0x0FC74, 0x0062A_00649),
    (0x0FC75, 0x0062A_0064A), (0x0FC76, 0x0062B_00631), (0x0FC77, 0x0062B_00632),
    (0x0FC78, 0x0062B_00645), (0x0FC79, 0x0062B_00646), (0x0FC7A, 0x0062B_00649),
    (0x0FC7B, 0x0062B_0064A), (0x0FC7C, 0x00641_00649), (0x0FC7D, 0x00641_0064A),
    (0x0FC7E, 0x00642_00649), (0x0FC7F, 0x00642_0064A), (0x0FC80, 0x00643_00627),
    (0x0FC81, 0x00643_00644), (0x0FC82, 0x00643_00645), (0x0FC83, 0x00643_00649),
    (0x0FC84, 0x00643_0064A), (0x0FC85, 0x00644_00645), (0x0FC86, 0x00644_00649),
    (0x0FC87, 0x00644_0064A), (0x0FC88, 0x00645_00627), (0x0FC89, 0x00645_00645),
    (0x0FC8A, 0x00646_00631), (0x0FC8B, 0x00646_00632), (0x0FC8C, 0x00646_00645),
    (0x0FC8D, 0x00646_00646), (0x0FC8E, 0x00646_00649), (0x0FC8F, 0x00646_0064A),
    (0x0FC90, 0x00649_00670), (0x0FC91, 0x0064A_00631), (0x0FC92, 0x0064A_00632),
    (0x0FC93, 0x0064A_00645), (0x0FC94, 0x0064A_00646), (0x0FC95, 0x0064A_00649),
    (0x0FC96, 0x0064A_0064A), (0x0FC97, 0x00626_0062C), (0x0FC98, 0x00626_0062D),
    (0x0FC99, 0x00626_0062E), (0x0FC9A, 0x00626_00645), (0x0FC9B, 0x00626_00647),
    (0x0FC9C, 0x00628_0062C), (0x0FC9D, 0x00628_0062D), (0x0FC9E, 0x00628_0062E),
    (0x0FC9F, 0x00628_00645), (0x0FCA0, 0x00628_00647), (0x0FCA1, 0x0062A_0062C),
    (0x0FCA2, 0x0062A_0062D)],
  [
    (0x0FCA3, 0x0062A_0062E), (0x0FCA4, 0x0062A_00645), (0x0FCA5, 0x0062A_00647),
    (0x0FCA6, 0x0062B_00645), (0x0FCA7, 0x0062C_0062D), (0x0FCA8, 0x0062C_00645),
    (0x0FCA9, 0x0062D_0062C), (0x0FCAA, 0x0062D_00645), (0x0FCAB, 0x0062E_0062C),
    (0x0FCAC, 0x0062E_00645), (0x0FCAD, 0x00633_0062C), (0x0FCAE, 0x00633_0062D),
    (0x0FCAF, 0x00633_0062E), (0x0FCB0, 0x00633_00645), (0x0FCB1, 0x00635_0062D),
    (0x0FCB2, 0x00635_0062E), (0x0FCB3, 0x00635_00645), (0x0FCB4, 0x00636_0062C),
    (0x0FCB5, 0x00636_0062D), (0x0FCB6, 0x00636_0062E), (0x0FCB7, 0x00636_00645),
    (0x0FCB8, 0x00637_0062D), (0x0FCB9, 0x00638_00645), (0x0FCBA, 0x00639_0062C),
    (0x0FCBB, 0x00639_00645), (0x0FCBC, 0x0063A_0062C), (0x0FCBD, 0x0063A_00645),
    (0x0FCBE, 0x00641_0062C), (0x0FCBF, 0x00641_0062D), (0x0FCC0, 0x00641_0062E),
    (0x0FCC1, 0x00641_00645), (0x0FCC2, 0x00642_0062D), (0x0FCC3, 0x00642_00645),
    (0x0FCC4, 0x00643_0062C), (0x0FCC5, 0x00643_0062D), (0x0FCC6, 0x00643_0062E),
    (0x0FCC7, 0x00643_00644), (0x0FCC8, 0x00643_00645), (0x0FCC9, 0x00644_0062C),
    (0x0FCCA, 0x00644_0062D), (0x0FCCB, 0x00644_0062E), (0x0FCCC, 0x00644_00645),
    (0x0FCCD, 0x00644_00647), (0x0FCCE, 0x00645_0062C), (0x0FCCF, 0x00645_0062D),
    (0x0FCD0, 0x00645_0062E), (0x0FCD1, 0x00645_00645), (0x0FCD2, 0x00646_0062C),
    (0x0FCD3, 0x00646_0062D), (0x0FCD4, 0x00646_0062E), (0x0FCD5, 0x00646_00645),
    (0x0FCD6, 0x00646_00647), (0x0FCD7, 0x00647_0062C), (0x0FCD8, 0x00647_00645),
    (0x0FCD9, 0x00647_00670), (0x0FCDA, 0x0064A_0062C), (0x0FCDB, 0x0064A_0062D),
    (0x0FCDC, 0x0064A_0062E), (0x0FCDD, 0x0064A_00645), (0x0FCDE, 0x0064A_00647),
    (0x0FCDF, 0x00626_00645), (0x0FCE0, 0x00626_00647), (0x0FCE1, 0x00628_00645),
    (0x0FCE2, 0x00628_00647)],
  [
    (0x0FCE3, 0x0062A_00645), (0x0FCE4, 0x0062A_00647), (0x0FCE5, 0x0062B_00645),
    (0x0FCE6, 0x0062B_00647), (0x0FCE7, 0x00633_00645), (0x0FCE8, 0x00633_00647),
    (0x0FCE9, 0x00634_00645), (0x0FCEA, 0x00634_00647), (0x0FCEB, 0x00643_00644),
    (0x0FCEC, 0x00643_00645), (0x0FCED, 0x00644_00645), (0x0FCEE, 0x00646_00645),
    (0x0FCEF, 0x00646_00647), (0x0FCF0, 0x0064A_00645), (0x0FCF1, 0x0064A_00647),
    (0x0FCF2, 0x00640_0064E_00651), (0x0FCF3, 0x00640_0064F_00651), (0x0FCF4, 0x00640_00650_00651),
    (0x0FCF5, 0x00637_00649), (0x0FCF6, 0x00637_0064A), (0x0FCF7, 0x00639_00649),
    (0x0FCF8, 0x00639_0064A), (0x0FCF9, 0x0063A_00649), (0x0FCFA, 0x0063A_0064A),
    (0x0FCFB, 0x00633_00649), (0x0FCFC, 0x00633_0064A), (0x0FCFD, 0x00634_00649),
    (0x0FCFE, 0x00634_0064A), (0x0FCFF, 0x0062D_00649), (0x0FD00, 0x0062D_0064A),
    (0x0FD01, 0x0062C_00649), (0x0FD02, 0x0062C_0064A), (0x0FD03, 0x0062E_00649),
    (0x0FD04, 0x0062E_0064A), (0x0FD05, 0x00635_00649), (0x0FD06, 0x00635_0064A),
    (0x0FD07, 0x00636_00649), (0x0FD08, 0x00636_0064A), (0x0FD09, 0x00634_0062C),
    (0x0FD0A, 0x00634_0062D), (0x0FD0B, 0x00634_0062E), (0x0FD0C, 0x00634_00645),
    (0x0FD0D, 0x00634_00631), (0x0FD0E, 0x00633_00631), (0x0FD0F, 0x00635_00631),
    (0x0FD10, 0x00636_00631), (0x0FD11, 0x00637_00649), (0x0FD12, 0x00637_0064A),
    (0x0FD13, 0x00639_00649), (0x0FD14, 0x00639_0064A), (0x0FD15, 0x0063A_00649),
    (0x0FD16, 0x0063A_0064A), (0x0FD17, 0x00633_00649), (0x0FD18, 0x00633_0064A),
    (0x0FD19, 0x00634_00649), (0x0FD1A, 0x00634_0064A), (0x0FD1B, 0x0062D_00649),
    (0x0FD1C, 0x0062D_0064A), (0x0FD1D, 0x0062C_00649), (0x0FD1E, 0x0062C_0064A),
    (0x0FD1F, 0x0062E_00649), (0x0FD20, 0x0062E_0064A), (0x0FD21, 0x00635_00649),
    (0x0FD22, 0x00635_0064A)],
  [
    (0x0FD23, 0x00636_00649), (0x0FD24, 0x00636_0064A), (0x0FD25, 0x00634_0062C),
    (0x0FD26, 0x00634_0062D), (0x0FD27, 0x00634_0062E), (0x0FD28, 0x00634_00645),
    (0x0FD29, 0x00634_00631), (0x0FD2A, 0x00633_00631), (0x0FD2B, 0x00635_00631),
    (0x0FD2C, 0x00636_00631), (0x0FD2D, 0x00634_0062C), (0x0FD2E, 0x00634_0062D),
    (0x0FD2F, 0x00634_0062E), (0x0FD30, 0x00634_00645), (0x0FD31, 0x00633_00647),
    (0x0FD32, 0x00634_00647), (0x0FD33, 0x00637_00645), (0x0FD34, 0x00633_0062C),
    (0x0FD35, 0x00633_0062D), (0x0FD36, 0x00633_0062E), (0x0FD37, 0x00634_0062C),
    (0x0FD38, 0x00634_0062D), (0x0FD39, 0x00634_0062E), (0x0FD3A, 0x00637_00645),
    (0x0FD3B, 0x00638_00645), (0x0FD3C, 0x00627_0064B), (0x0FD3D, 0x00627_0064B),
    (0x0FD50, 0x0062A_0062C_00645), (0x0FD51, 0x0062A_0062D_0062C), (0x0FD52, 0x0062A_0062D_0062C),
    (0x0FD53, 0x0062A_0062D_00645), (0x0FD54, 0x0062A_0062E_00645), (0x0FD55, 0x0062A_00645_0062C),
    (0x0FD56, 0x0062A_00645_0062D), (0x0FD57, 0x0062A_00645_0062E), (0x0FD58, 0x0062C_00645_0062D),
    (0x0FD59, 0x0062C_00645_0062D), (0x0FD5A, 0x0062D_00645_0064A), (0x0FD5B, 0x0062D_00645_00649),
    (0x0FD5C, 0x00633_0062D_0062C), (0x0FD5D, 0x00633_0062C_0062D), (0x0FD5E, 0x00633_0062C_00649),
    (0x0FD5F, 0x00633_00645_0062D), (0x0FD60, 0x00633_00645_0062D), (0x0FD61, 0x00633_00645_0062C),
    (0x0FD62, 0x00633_00645_00645), (0x0FD63, 0x00633_00645_00645), (0x0FD64, 0x00635_0062D_0062D),
    (0x0FD65, 0x00635_0062D_0062D), (0x0FD66, 0x00635_00645_00645), (0x0FD67, 0x00634_0062D_00645),
    (0x0FD68, 0x00634_0062D_00645), (0x0FD69, 0x00634_0062C_0064A), (0x0FD6A, 0x00634_00645_0062E),
    (0x0FD6B, 0x00634_00645_0062E), (0x0FD6C, 0x00634_00645_00645), (0x0FD6D, 0x00634_00645_00645),
    (0x0FD6E, 0x00636_0062D_00649), (0x0FD6F, 0x00636_0062E_00645), (0x0FD70, 0x00636_0062E_00645),
    (0x0FD71, 0x00637_00645_0062D), (0x0FD72, 0x00637_00645_0062D), (0x0FD73, 0x00637_00645_00645),
    (0x0FD74, 0x00637_00645_0064A)],
  [
    (0x0FD75, 0x00639_0062C_00645), (0x0FD76, 0x00639_00645_00645), (0x0FD77, 0x00639_00645_00645),
    (0x0FD78, 0x00639_00645_00649), (0x0FD79, 0x0063A_00645_00645), (0x0FD7A, 0x0063A_00645_0064A),
    (0x0FD7B, 0x0063A_00645_00649), (0x0FD7C, 0x00641_0062E_00645), (0x0FD7D, 0x00641_0062E_00645),
    (0x0FD7E, 0x00642_00645_0062D), (0x0FD7F, 0x00642_00645_00645), (0x0FD80, 0x00644_0062D_00645),
    (0x0FD81, 0x00644_0062D_0064A), (0x0FD82, 0x00644_0062D_00649), (0x0FD83, 0x00644_0062C_0062C),
    (0x0FD84, 0x00644_0062C_0062C), (0x0FD85, 0x00644_0062E_00645), (0x0FD86, 0x00644_0062E_00645),
    (0x0FD87, 0x00644_00645_0062D), (0x0FD88, 0x00644_00645_0062D), (0x0FD89, 0x00645_0062D_0062C),
    (0x0FD8A, 0x00645_0062D_00645), (0x0FD8B, 0x00645_0062D_0064A), (0x0FD8C, 0x00645_0062C_0062D),
    (0x0FD8D, 0x00645_0062C_00645), (0x0FD8E, 0x00645_0062E_0062C), (0x0FD8F, 0x00645_0062E_00645),
    (0x0FD92, 0x00645_0062C_0062E), (0x0FD93, 0x00647_00645_0062C), (0x0FD94, 0x00647_00645_00645),
    (0x0FD95, 0x00646_0062D_00645), (0x0FD96, 0x00646_0062D_00649), (0x0FD97, 0x00646_0062C_00645),
    (0x0FD98, 0x00646_0062C_00645), (0x0FD99, 0x00646_0062C_00649), (0x0FD9A, 0x00646_00645_0064A),
    (0x0FD9B, 0x00646_00645_00649), (0x0FD9C, 0x0064A_00645_00645), (0x0FD9D, 0x0064A_00645_00645),
    (0x0FD9E, 0x00628_0062E_0064A), (0x0FD9F, 0x0062A_0062C_0064A), (0x0FDA0, 0x0062A_0062C_00649),
    (0x0FDA1, 0x0062A_0062E_0064A), (0x0FDA2, 0x0062A_0062E_00649), (0x0FDA3, 0x0062A_00645_0064A),
    (0x0FDA4, 0x0062A_00645_00649), (0x0FDA5, 0x0062C_00645_0064A), (0x0FDA6, 0x0062C_0062D_00649),
    (0x0FDA7, 0x0062C_00645_00649), (0x0FDA8, 0x00633_0062E_00649), (0x0FDA9, 0x00635_0062D_0064A),
    (0x0FDAA, 0x00634_0062D_0064A), (0x0FDAB, 0x00636_0062D_0064A), (0x0FDAC, 0x00644_0062C_0064A),
    (0x0FDAD, 0x00644_00645_0064A), (0x0FDAE, 0x0064A_0062D_0064A), (0x0FDAF, 0x0064A_0062C_0064A),
    (0x0FDB0, 0x0064A_00645_0064A), (0x0FDB1, 0x00645_00645_0064A), (0x0FDB2, 0x00642_00645_0064A),
    (0x0FDB3, 0x00646_0062D_0064A), (0x0FDB4, 0x00642_00645_0062D), (0x0FDB5, 0x00644_0062D_00645),
    (0x0FDB6, 0x00639_00645_0064A)],
  [
    (0x0FDB7, 0x00643_00645_0064A), (0x0FDB8, 0x00646_0062C_0062D), (0x0FDB9, 0x00645_0062E_0064A),
    (0x0FDBA, 0x00644_0062C_00645), (0x0FDBB, 0x00643_00645_00645), (0x0FDBC, 0x00644_0062C_00645),
    (0x0FDBD, 0x00646_0062C_0062D), (0x0FDBE, 0x0062C_0062D_0064A), (0x0FDBF, 0x0062D_0062C_0064A),
    (0x0FDC0, 0x00645_0062C_0064A), (0x0FDC1, 0x00641_00645_0064A), (0x0FDC2, 0x00628_0062D_0064A),
    (0x0FDC3, 0x00643_00645_00645), (0x0FDC4, 0x00639_0062C_00645), (0x0FDC5, 0x00635_00645_00645),
    (0x0FDC6, 0x00633_0062E_0064A), (0x0FDC7, 0x00646_0062C_0064A), (0x0FDF0, 0x00635_00644_006D2),
    (0x0FDF1, 0x00642_00644_006D2), (0x0FDF2, 0x00627_00644_00644_00647),
    (0x0FDF3, 0x00627_00643_00628_00631), (0x0FDF4, 0x00645_0062D_00645_0062F),
    (0x0FDF5, 0x00635_00644_00639_00645), (0x0FDF6, 0x00631_00633_00648_00644),
    (0x0FDF7, 0x00639_00644_0064A_00647), (0x0FDF8, 0x00648_00633_00644_00645),
    (0x0FDF9, 0x00635_00644_00649),
    (0x0FDFA,
     0x00635_00644_00649_00020_00627_00644_00644_00647_00020_00639_00644_0064A_00647_00020_00648_00633_00644_00645),
    (0x0FDFB, 0x0062C_00644_00020_0062C_00644_00627_00644_00647),
    (0x0FDFC, 0x00631_006CC_00627_00644), (0x0FE49, 0x00020_00305), (0x0FE4A, 0x00020_00305),
    (0x0FE4B, 0x00020_00305), (0x0FE4C, 0x00020_00305), (0x0FE70, 0x00020_0064B),
    (0x0FE71, 0x00640_0064B), (0x0FE72, 0x00020_0064C), (0x0FE74, 0x00020_0064D),
    (0x0FE76, 0x00020_0064E), (0x0FE77, 0x00640_0064E), (0x0FE78, 0x00020_0064F),
    (0x0FE79, 0x00640_0064F), (0x0FE7A, 0x00020_00650), (0x0FE7B, 0x00640_00650),
    (0x0FE7C, 0x00020_00651), (0x0FE7D, 0x00640_00651), (0x0FE7E, 0x00020_00652),
    (0x0FE7F, 0x00640_00652), (0x0FEF5, 0x00644_00622), (0x0FEF6, 0x00644_00622),
    (0x0FEF7, 0x00644_00623), (0x0FEF8, 0x00644_00623), (0x0FEF9, 0x00644_00625),
    (0x0FEFA, 0x00644_00625), (0x0FEFB, 0x00644_00627), (0x0FEFC, 0x00644_00627),
    (0x0FFE3, 0x00020_00304), (0x1F101, 0x00030_0002C), (0x1F102, 0x00031_0002C),
    (0x1F103, 0x00032_0002C), (0x1F104, 0x00033_0002C), (0x1F105, 0x00034_0002C),
    (0x1F106, 0x00035_0002C), (0x1F107, 0x00036_0002C)],
  [
    (0x1F108, 0x00037_0002C), (0x1F109, 0x00038_0002C), (0x1F10A, 0x00039_0002C),
    (0x1F110, 0x00028_00061_00029), (0x1F111, 0x00028_00062_00029), (0x1F112, 0x00028_00063_00029),
    (0x1F113, 0x00028_00064_00029), (0x1F114, 0x00028_00065_00029), (0x1F115, 0x00028_00066_00029),
    (0x1F116, 0x00028_00067_00029), (0x1F117, 0x00028_00068_00029), (0x1F118, 0x00028_00069_00029),
    (0x1F119, 0x00028_0006A_00029), (0x1F11A, 0x00028_0006B_00029), (0x1F11B, 0x00028_0006C_00029),
    (0x1F11C, 0x00028_0006D_00029), (0x1F11D, 0x00028_0006E_00029), (0x1F11E, 0x00028_0006F_00029),
    (0x1F11F, 0x00028_00070_00029), (0x1F120, 0x00028_00071_00029), (0x1F121, 0x00028_00072_00029),
    (0x1F122, 0x00028_00073_00029), (0x1F123, 0x00028_00074_00029), (0x1F124, 0x00028_00075_00029),
    (0x1F125, 0x00028_00076_00029), (0x1F126, 0x00028_00077_00029), (0x1F127, 0x00028_00078_00029),
    (0x1F128, 0x00028_00079_00029), (0x1F129, 0x00028_0007A_00029), (0x1F12A, 0x03014_00073_03015),
    (0x1F12D, 0x00063_00064), (0x1F12E, 0x00077_0007A), (0x1F14A, 0x00068_00076),
    (0x1F14B, 0x0006D_00076), (0x1F14C, 0x00073_00064), (0x1F14D, 0x00073_00073),
    (0x1F14E, 0x00070_00070_00076), (0x1F14F, 0x00077_00063), (0x1F16A, 0x0006D_00063),
    (0x1F16B, 0x0006D_00064), (0x1F16C, 0x0006D_00072), (0x1F190, 0x00064_0006A),
    (0x1F200, 0x0307B_0304B), (0x1F201, 0x030B3_030B3), (0x1F240, 0x03014_0672C_03015),
    (0x1F241, 0x03014_04E09_03015), (0x1F242, 0x03014_04E8C_03015), (0x1F243, 0x03014_05B89_03015),
    (0x1F244, 0x03014_070B9_03015), (0x1F245, 0x03014_06253_03015), (0x1F246, 0x03014_076D7_03015),
    (0x1F247, 0x03014_052DD_03015), (0x1F248, 0x03014_06557_03015)]]

end Blocklist.Hostname.Mapping

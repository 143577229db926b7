/-
This file holds the writing direction of characters, and the marks among them.
-/

import Blocklist.Text.CodeTable

set_option maxRecDepth 10000

namespace Blocklist.Hostname.Direction

/-- Each entry gives the first and last character of a range, and the number of their direction;
the characters in no entry run from left to right. -/
def directionRuns : CodeTable := [
  [
    0x000A1_000BF_00005, 0x000D7_000D7_00005, 0x000F7_000F7_00005, 0x002B9_002BA_00005,
    0x002C2_002CF_00005, 0x002D2_002ED_00005, 0x002EF_002FF_00005, 0x00300_0036F_00004,
    0x00374_00375_00005, 0x0037E_00385_00005, 0x00387_00387_00005, 0x003F6_003F6_00005,
    0x00483_00489_00004, 0x0058A_0058F_00005, 0x00591_005BD_00004, 0x005BE_005BE_00001,
    0x005BF_005BF_00004, 0x005C0_005C0_00001, 0x005C1_005C2_00004, 0x005C3_005C3_00001,
    0x005C4_005C5_00004, 0x005C6_005C6_00001, 0x005C7_005C7_00004, 0x005D0_005F4_00001,
    0x00606_00607_00005, 0x00608_00608_00001, 0x00609_0060A_00005, 0x0060B_0060B_00001,
    0x0060C_0060C_00005, 0x0060D_0060D_00001, 0x0060E_0060F_00005, 0x00610_0061A_00004,
    0x0061B_0064A_00001, 0x0064B_0065F_00004, 0x00660_00669_00002, 0x0066A_0066A_00005,
    0x0066B_0066C_00002, 0x0066D_0066F_00001, 0x00670_00670_00004, 0x00671_006D5_00001,
    0x006D6_006DC_00004, 0x006DE_006DE_00005, 0x006DF_006E4_00004, 0x006E5_006E6_00001,
    0x006E7_006E8_00004, 0x006E9_006E9_00005, 0x006EA_006ED_00004, 0x006EE_006EF_00001,
    0x006F0_006F9_00003, 0x006FA_00710_00001, 0x00711_00711_00004, 0x00712_0072F_00001,
    0x00730_0074A_00004, 0x0074D_007A5_00001, 0x007A6_007B0_00004, 0x007B1_007EA_00001,
    0x007EB_007F3_00004, 0x007F4_007F5_00001, 0x007F6_007F9_00005, 0x007FA_007FA_00001,
    0x007FD_007FD_00004, 0x007FE_00815_00001, 0x00816_00819_00004, 0x0081A_0081A_00001],
  [
    0x0081B_00823_00004, 0x00824_00824_00001, 0x00825_00827_00004, 0x00828_00828_00001,
    0x00829_0082D_00004, 0x00830_00858_00001, 0x00859_0085B_00004, 0x0085E_0088E_00001,
    0x00898_0089F_00004, 0x008A0_008C9_00001, 0x008CA_00902_00004, 0x0093A_0093A_00004,
    0x0093C_0093C_00004, 0x00941_00948_00004, 0x0094D_0094D_00004, 0x00951_00957_00004,
    0x00962_00963_00004, 0x00981_00981_00004, 0x009BC_009BC_00004, 0x009C1_009C4_00004,
    0x009CD_009CD_00004, 0x009E2_009E3_00004, 0x009F2_009F3_00005, 0x009FB_009FB_00005,
    0x009FE_00A02_00004, 0x00A3C_00A3C_00004, 0x00A41_00A51_00004, 0x00A70_00A71_00004,
    0x00A75_00A75_00004, 0x00A81_00A82_00004, 0x00ABC_00ABC_00004, 0x00AC1_00AC8_00004,
    0x00ACD_00ACD_00004, 0x00AE2_00AE3_00004, 0x00AF1_00AF1_00005, 0x00AFA_00B01_00004,
    0x00B3C_00B3C_00004, 0x00B3F_00B3F_00004, 0x00B41_00B44_00004, 0x00B4D_00B56_00004,
    0x00B62_00B63_00004, 0x00B82_00B82_00004, 0x00BC0_00BC0_00004, 0x00BCD_00BCD_00004,
    0x00BF3_00BFA_00005, 0x00C00_00C00_00004, 0x00C04_00C04_00004, 0x00C3C_00C3C_00004,
    0x00C3E_00C40_00004, 0x00C46_00C56_00004, 0x00C62_00C63_00004, 0x00C78_00C7E_00005,
    0x00C81_00C81_00004, 0x00CBC_00CBC_00004, 0x00CCC_00CCD_00004, 0x00CE2_00CE3_00004,
    0x00D00_00D01_00004, 0x00D3B_00D3C_00004, 0x00D41_00D44_00004, 0x00D4D_00D4D_00004,
    0x00D62_00D63_00004, 0x00D81_00D81_00004, 0x00DCA_00DCA_00004, 0x00DD2_00DD6_00004],
  [
    0x00E31_00E31_00004, 0x00E34_00E3A_00004, 0x00E3F_00E3F_00005, 0x00E47_00E4E_00004,
    0x00EB1_00EB1_00004, 0x00EB4_00EBC_00004, 0x00EC8_00ECE_00004, 0x00F18_00F19_00004,
    0x00F35_00F35_00004, 0x00F37_00F37_00004, 0x00F39_00F39_00004, 0x00F3A_00F3D_00005,
    0x00F71_00F7E_00004, 0x00F80_00F84_00004, 0x00F86_00F87_00004, 0x00F8D_00FBC_00004,
    0x00FC6_00FC6_00004, 0x0102D_01030_00004, 0x01032_01037_00004, 0x01039_0103A_00004,
    0x0103D_0103E_00004, 0x01058_01059_00004, 0x0105E_01060_00004, 0x01071_01074_00004,
    0x01082_01082_00004, 0x01085_01086_00004, 0x0108D_0108D_00004, 0x0109D_0109D_00004,
    0x0135D_0135F_00004, 0x01390_01399_00005, 0x01400_01400_00005, 0x0169B_0169C_00005,
    0x01712_01714_00004, 0x01732_01733_00004, 0x01752_01753_00004, 0x01772_01773_00004,
    0x017B7_017BD_00004, 0x017C6_017C6_00004, 0x017C9_017D3_00004, 0x017DB_017DB_00005,
    0x017DD_017DD_00004, 0x017F0_0180A_00005, 0x01885_01886_00004, 0x018A9_018A9_00004,
    0x01920_01922_00004, 0x01927_01928_00004, 0x01932_01932_00004, 0x01939_0193B_00004,
    0x01940_01945_00005, 0x019DE_019FF_00005, 0x01A17_01A18_00004, 0x01A1B_01A1B_00004,
    0x01A56_01A56_00004, 0x01A58_01A60_00004, 0x01A62_01A62_00004, 0x01A65_01A6C_00004,
    0x01A73_01A7F_00004, 0x01AB0_01B03_00004, 0x01B34_01B34_00004, 0x01B36_01B3A_00004,
    0x01B3C_01B3C_00004, 0x01B42_01B42_00004, 0x01B6B_01B73_00004, 0x01B80_01B81_00004],
  [
    0x01BA2_01BA5_00004, 0x01BA8_01BA9_00004, 0x01BAB_01BAD_00004, 0x01BE6_01BE6_00004,
    0x01BE8_01BE9_00004, 0x01BED_01BED_00004, 0x01BEF_01BF1_00004, 0x01C2C_01C33_00004,
    0x01C36_01C37_00004, 0x01CD0_01CD2_00004, 0x01CD4_01CE0_00004, 0x01CE2_01CE8_00004,
    0x01CED_01CED_00004, 0x01CF4_01CF4_00004, 0x01CF8_01CF9_00004, 0x01DC0_01DFF_00004,
    0x01FBF_01FC1_00005, 0x01FCD_01FCF_00005, 0x01FDD_01FDF_00005, 0x01FED_01FEF_00005,
    0x01FFD_01FFE_00005, 0x02000_02003_00006, 0x0200C_020C0_00005, 0x020D0_020F0_00004,
    0x02104_02125_00005, 0x02127_02129_00005, 0x0212E_0214D_00005, 0x0218A_02335_00005,
    0x0237B_02394_00005, 0x02396_026AB_00005, 0x026AD_027FF_00005, 0x02900_02BFF_00005,
    0x02CE5_02CEA_00005, 0x02CEF_02CF1_00004, 0x02CF9_02CFF_00005, 0x02D7F_02D7F_00004,
    0x02DE0_02DFF_00004, 0x02E00_03004_00005, 0x03008_03020_00005, 0x0302A_0302D_00004,
    0x03030_03030_00005, 0x03037_03037_00005, 0x0303D_0303F_00005, 0x03099_0309A_00004,
    0x030A0_030A0_00005, 0x030FB_030FB_00005, 0x031C0_031E3_00005, 0x04DC0_04DFF_00005,
    0x0A490_0A4C6_00005, 0x0A60D_0A60F_00005, 0x0A66F_0A672_00004, 0x0A673_0A673_00005,
    0x0A674_0A67D_00004, 0x0A67E_0A67F_00005, 0x0A69E_0A69F_00004, 0x0A6F0_0A6F1_00004,
    0x0A700_0A721_00005, 0x0A788_0A788_00005, 0x0A802_0A802_00004, 0x0A806_0A806_00004,
    0x0A80B_0A80B_00004, 0x0A825_0A826_00004, 0x0A828_0A82B_00005, 0x0A82C_0A82C_00004],
  [
    0x0A838_0A839_00005, 0x0A874_0A877_00005, 0x0A8C4_0A8C5_00004, 0x0A8E0_0A8F1_00004,
    0x0A8FF_0A8FF_00004, 0x0A926_0A92D_00004, 0x0A947_0A951_00004, 0x0A980_0A982_00004,
    0x0A9B3_0A9B3_00004, 0x0A9B6_0A9B9_00004, 0x0A9BC_0A9BD_00004, 0x0A9E5_0A9E5_00004,
    0x0AA29_0AA2E_00004, 0x0AA31_0AA32_00004, 0x0AA35_0AA36_00004, 0x0AA43_0AA43_00004,
    0x0AA4C_0AA4C_00004, 0x0AA7C_0AA7C_00004, 0x0AAB0_0AAB0_00004, 0x0AAB2_0AAB4_00004,
    0x0AAB7_0AAB8_00004, 0x0AABE_0AABF_00004, 0x0AAC1_0AAC1_00004, 0x0AAEC_0AAED_00004,
    0x0AAF6_0AAF6_00004, 0x0AB6A_0AB6B_00005, 0x0ABE5_0ABE5_00004, 0x0ABE8_0ABE8_00004,
    0x0ABED_0ABED_00004, 0x0FB1D_0FB1D_00001, 0x0FB1E_0FB1E_00004, 0x0FB1F_0FBC2_00001,
    0x0FD3E_0FDFF_00005, 0x0FE20_0FE2F_00004, 0x0FE45_0FE46_00005, 0x0FE73_0FE73_00001,
    0x10101_10101_00005, 0x10140_1018C_00005, 0x10190_101A0_00005, 0x101FD_101FD_00004,
    0x102E0_102E0_00004, 0x102E1_102FB_00003, 0x10376_1037A_00004, 0x10800_1091B_00001,
    0x1091F_1091F_00005, 0x10920_10A00_00001, 0x10A01_10A0F_00004, 0x10A10_10A35_00001,
    0x10A38_10A3F_00004, 0x10A40_10AE4_00001, 0x10AE5_10AE6_00004, 0x10AEB_10B35_00001,
    0x10B39_10B3F_00005, 0x10B40_10D23_00001, 0x10D24_10D27_00004, 0x10D30_10E7E_00002,
    0x10E80_10EA9_00001, 0x10EAB_10EAC_00004, 0x10EAD_10EB1_00001, 0x10EFD_10EFF_00004,
    0x10F00_10F45_00001, 0x10F46_10F50_00004, 0x10F51_10F81_00001, 0x10F82_10F85_00004],
  [
    0x10F86_10FF6_00001, 0x11001_11001_00004, 0x11038_11046_00004, 0x11052_11065_00005,
    0x11070_11070_00004, 0x11073_11074_00004, 0x1107F_11081_00004, 0x110B3_110B6_00004,
    0x110B9_110BA_00004, 0x110C2_110C2_00004, 0x11100_11102_00004, 0x11127_1112B_00004,
    0x1112D_11134_00004, 0x11173_11173_00004, 0x11180_11181_00004, 0x111B6_111BE_00004,
    0x111C9_111CC_00004, 0x111CF_111CF_00004, 0x1122F_11231_00004, 0x11234_11234_00004,
    0x11236_11237_00004, 0x1123E_1123E_00004, 0x11241_11241_00004, 0x112DF_112DF_00004,
    0x112E3_112EA_00004, 0x11300_11301_00004, 0x1133B_1133C_00004, 0x11340_11340_00004,
    0x11366_11374_00004, 0x11438_1143F_00004, 0x11442_11444_00004, 0x11446_11446_00004,
    0x1145E_1145E_00004, 0x114B3_114B8_00004, 0x114BA_114BA_00004, 0x114BF_114C0_00004,
    0x114C2_114C3_00004, 0x115B2_115B5_00004, 0x115BC_115BD_00004, 0x115BF_115C0_00004,
    0x115DC_115DD_00004, 0x11633_1163A_00004, 0x1163D_1163D_00004, 0x1163F_11640_00004,
    0x11660_1166C_00005, 0x116AB_116AB_00004, 0x116AD_116AD_00004, 0x116B0_116B5_00004,
    0x116B7_116B7_00004, 0x1171D_1171F_00004, 0x11722_11725_00004, 0x11727_1172B_00004,
    0x1182F_11837_00004, 0x11839_1183A_00004, 0x1193B_1193C_00004, 0x1193E_1193E_00004,
    0x11943_11943_00004, 0x119D4_119DB_00004, 0x119E0_119E0_00004, 0x11A01_11A06_00004,
    0x11A09_11A0A_00004, 0x11A33_11A38_00004, 0x11A3B_11A3E_00004, 0x11A47_11A47_00004],
  [
    0x11A51_11A56_00004, 0x11A59_11A5B_00004, 0x11A8A_11A96_00004, 0x11A98_11A99_00004,
    0x11C30_11C3D_00004, 0x11C92_11CA7_00004, 0x11CAA_11CB0_00004, 0x11CB2_11CB3_00004,
    0x11CB5_11CB6_00004, 0x11D31_11D45_00004, 0x11D47_11D47_00004, 0x11D90_11D91_00004,
    0x11D95_11D95_00004, 0x11D97_11D97_00004, 0x11EF3_11EF4_00004, 0x11F00_11F01_00004,
    0x11F36_11F3A_00004, 0x11F40_11F40_00004, 0x11F42_11F42_00004, 0x11FD5_11FF1_00005,
    0x13440_13440_00004, 0x13447_13455_00004, 0x16AF0_16AF4_00004, 0x16B30_16B36_00004,
    0x16F4F_16F4F_00004, 0x16F8F_16F92_00004, 0x16FE2_16FE2_00005, 0x16FE4_16FE4_00004,
    0x1BC9D_1BC9E_00004, 0x1CF00_1CF46_00004, 0x1D167_1D169_00004, 0x1D17B_1D182_00004,
    0x1D185_1D18B_00004, 0x1D1AA_1D1AD_00004, 0x1D1E9_1D241_00005, 0x1D242_1D244_00004,
    0x1D245_1D245_00005, 0x1D300_1D356_00005, 0x1DA00_1DA36_00004, 0x1DA3B_1DA6C_00004,
    0x1DA75_1DA75_00004, 0x1DA84_1DA84_00004, 0x1DA9B_1DAAF_00004, 0x1E000_1E08F_00004,
    0x1E130_1E136_00004, 0x1E2AE_1E2AE_00004, 0x1E2EC_1E2EF_00004, 0x1E2FF_1E2FF_00005,
    0x1E4EC_1E4EF_00004, 0x1E800_1E8CF_00001, 0x1E8D0_1E8D6_00004, 0x1E922_1E943_00001,
    0x1E944_1E94A_00004, 0x1E94B_1ED3D_00001, 0x1EEF0_1F12F_00005, 0x1F16D_1F16F_00005,
    0x1F1AD_1F1AD_00005, 0x1F260_1FBCA_00005]]

/-- Each entry gives a range of characters that combine with the character before them. -/
def markRanges : CodeTable := [
  [
    0x00300_0036F, 0x00483_00489, 0x00591_005BD, 0x005BF_005BF, 0x005C1_005C2, 0x005C4_005C5,
    0x005C7_005C7, 0x00610_0061A, 0x0064B_0065F, 0x00670_00670, 0x006D6_006DC, 0x006DF_006E4,
    0x006E7_006E8, 0x006EA_006ED, 0x00711_00711, 0x00730_0074A, 0x007A6_007B0, 0x007EB_007F3,
    0x007FD_007FD, 0x00816_00819, 0x0081B_00823, 0x00825_00827, 0x00829_0082D, 0x00859_0085B,
    0x00898_0089F, 0x008CA_00903, 0x0093A_0093C, 0x0093E_0094F, 0x00951_00957, 0x00962_00963,
    0x00981_00983, 0x009BC_009BC, 0x009BE_009CD, 0x009D7_009D7, 0x009E2_009E3, 0x009FE_00A03,
    0x00A3C_00A51, 0x00A70_00A71, 0x00A75_00A75, 0x00A81_00A83, 0x00ABC_00ABC, 0x00ABE_00ACD,
    0x00AE2_00AE3, 0x00AFA_00B03, 0x00B3C_00B3C, 0x00B3E_00B57, 0x00B62_00B63, 0x00B82_00B82,
    0x00BBE_00BCD, 0x00BD7_00BD7, 0x00C00_00C04, 0x00C3C_00C3C, 0x00C3E_00C56, 0x00C62_00C63,
    0x00C81_00C83, 0x00CBC_00CBC, 0x00CBE_00CD6, 0x00CE2_00CE3, 0x00CF3_00D03, 0x00D3B_00D3C,
    0x00D3E_00D4D, 0x00D57_00D57, 0x00D62_00D63, 0x00D81_00D83],
  [
    0x00DCA_00DDF, 0x00DF2_00DF3, 0x00E31_00E31, 0x00E34_00E3A, 0x00E47_00E4E, 0x00EB1_00EB1,
    0x00EB4_00EBC, 0x00EC8_00ECE, 0x00F18_00F19, 0x00F35_00F35, 0x00F37_00F37, 0x00F39_00F39,
    0x00F3E_00F3F, 0x00F71_00F84, 0x00F86_00F87, 0x00F8D_00FBC, 0x00FC6_00FC6, 0x0102B_0103E,
    0x01056_01059, 0x0105E_01060, 0x01062_01064, 0x01067_0106D, 0x01071_01074, 0x01082_0108D,
    0x0108F_0108F, 0x0109A_0109D, 0x0135D_0135F, 0x01712_01715, 0x01732_01734, 0x01752_01753,
    0x01772_01773, 0x017B6_017D3, 0x017DD_017DD, 0x01885_01886, 0x018A9_018A9, 0x01920_0193B,
    0x01A17_01A1B, 0x01A55_01A7F, 0x01AB0_01B04, 0x01B34_01B44, 0x01B6B_01B73, 0x01B80_01B82,
    0x01BA1_01BAD, 0x01BE6_01BF3, 0x01C24_01C37, 0x01CD0_01CD2, 0x01CD4_01CE8, 0x01CED_01CED,
    0x01CF4_01CF4, 0x01CF7_01CF9, 0x01DC0_01DFF, 0x020D0_020F0, 0x02CEF_02CF1, 0x02D7F_02D7F,
    0x02DE0_02DFF, 0x0302A_0302F, 0x03099_0309A, 0x0A66F_0A672, 0x0A674_0A67D, 0x0A69E_0A69F,
    0x0A6F0_0A6F1, 0x0A802_0A802, 0x0A806_0A806, 0x0A80B_0A80B],
  [
    0x0A823_0A827, 0x0A82C_0A82C, 0x0A880_0A881, 0x0A8B4_0A8C5, 0x0A8E0_0A8F1, 0x0A8FF_0A8FF,
    0x0A926_0A92D, 0x0A947_0A953, 0x0A980_0A983, 0x0A9B3_0A9C0, 0x0A9E5_0A9E5, 0x0AA29_0AA36,
    0x0AA43_0AA43, 0x0AA4C_0AA4D, 0x0AA7B_0AA7D, 0x0AAB0_0AAB0, 0x0AAB2_0AAB4, 0x0AAB7_0AAB8,
    0x0AABE_0AABF, 0x0AAC1_0AAC1, 0x0AAEB_0AAEF, 0x0AAF5_0AAF6, 0x0ABE3_0ABEA, 0x0ABEC_0ABED,
    0x0FB1E_0FB1E, 0x0FE20_0FE2F, 0x101FD_101FD, 0x102E0_102E0, 0x10376_1037A, 0x10A01_10A0F,
    0x10A38_10A3F, 0x10AE5_10AE6, 0x10D24_10D27, 0x10EAB_10EAC, 0x10EFD_10EFF, 0x10F46_10F50,
    0x10F82_10F85, 0x11000_11002, 0x11038_11046, 0x11070_11070, 0x11073_11074, 0x1107F_11082,
    0x110B0_110BA, 0x110C2_110C2, 0x11100_11102, 0x11127_11134, 0x11145_11146, 0x11173_11173,
    0x11180_11182, 0x111B3_111C0, 0x111C9_111CC, 0x111CE_111CF, 0x1122C_11237, 0x1123E_1123E,
    0x11241_11241, 0x112DF_112EA, 0x11300_11303, 0x1133B_1133C, 0x1133E_1134D, 0x11357_11357,
    0x11362_11374, 0x11435_11446, 0x1145E_1145E, 0x114B0_114C3],
  [
    0x115AF_115C0, 0x115DC_115DD, 0x11630_11640, 0x116AB_116B7, 0x1171D_1172B, 0x1182C_1183A,
    0x11930_1193E, 0x11940_11940, 0x11942_11943, 0x119D1_119E0, 0x119E4_119E4, 0x11A01_11A0A,
    0x11A33_11A39, 0x11A3B_11A3E, 0x11A47_11A47, 0x11A51_11A5B, 0x11A8A_11A99, 0x11C2F_11C3F,
    0x11C92_11CB6, 0x11D31_11D45, 0x11D47_11D47, 0x11D8A_11D97, 0x11EF3_11EF6, 0x11F00_11F01,
    0x11F03_11F03, 0x11F34_11F42, 0x13440_13440, 0x13447_13455, 0x16AF0_16AF4, 0x16B30_16B36,
    0x16F4F_16F4F, 0x16F51_16F92, 0x16FE4_16FF1, 0x1BC9D_1BC9E, 0x1CF00_1CF46, 0x1D165_1D169,
    0x1D16D_1D182, 0x1D185_1D18B, 0x1D1AA_1D1AD, 0x1D242_1D244, 0x1DA00_1DA36, 0x1DA3B_1DA6C,
    0x1DA75_1DA75, 0x1DA84_1DA84, 0x1DA9B_1DAAF, 0x1E000_1E08F, 0x1E130_1E136, 0x1E2AE_1E2AE,
    0x1E2EC_1E2EF, 0x1E4EC_1E4EF, 0x1E8D0_1E8D6, 0x1E944_1E94A]]

end Blocklist.Hostname.Direction

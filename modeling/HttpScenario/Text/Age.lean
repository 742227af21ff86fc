import HttpScenario.Text.CharSet

/-! The version in which every code point was assigned first, by runs. The capital of a code tells
the version, and a small letter what comes behind its point; a version is given in tenths. -/

namespace HttpScenario.Text.Age

def versions : List Nat :=
  [11, 20, 21, 30, 31, 32, 40, 41, 50, 51, 52, 60, 61, 62, 63, 70, 80, 90, 100, 110, 120, 121, 130,
   140, 150, 151, 160]

/-- Code points that are not assigned have the code of a version to come. -/
def ofCode (code : String) : Nat :=
  match code.toList with
  | capital :: rest => rest.foldl (fun code c => code + (c.toNat - 96)) (10 * (capital.toNat - 64))
  | [] => 0

def table : Runs Nat := .ofLines ofCode
  ["Aa502C4Aa30C8CbDC18D3Da11E14Aa89C5D2Aa47CAa10C5D17Aa70C9CbD8Da5D3Aa2CCb13Ea4Aa2Ea2U2AaE3AaGU4A",
   "a7UAaUAa20UAa44EaAa7CCb2AaCAaCAaCAaCAa18Ca2CbD5Da4CAa12CAa66CAa12CAa41EaC2Cb2C4Aa53Cb2Aa2Cb2Aa",
   "2Cb2EAa28C2Aa8Da2Aa2E6Cb16E4Ea16Eb2F2G8UAa38U2Aa7KAa39KAaCU2G2FaUB17DaB13Aa10EAa9BDa3U8Aa27U4K",
   "Aa5U11D4FaGEa5DaAaD9Ea5AaFcNDaAaFAa26Ea5Aa19C3D3Da6FAa14Cb2Aa72C2Aa5CAa15CAa30D2Aa10C5DC14UC30",
   "D3C27U2D3Da30Ea18C49CbU14E59U2K3Eb46U2Eb15UF28U2FUJ11U5N31UN2U5PN8FaGFa11G6H2NI8M10N11KI15HFa2",
   "7GEbAa3DAa53F2Aa18EbFAa5EbF2Aa25Ea2F5GEb2E2DaE2GAa3UAa8U2Aa2U2Aa22UAa7UAaU3Aa4U2AaDAa7U2Aa2U2A",
   "a3DaU8AaU4Aa2UAa5U2Aa21EbJ2KU2DAaDUAa6U4Aa2U2Aa22UAa7UAa2UAa2UAa2U2AaUAa5U4Aa2U2Aa3U3EaU7Aa4UA",
   "aU7Aa15EaKU10Aa3UAa7DAaUAa3UAa22UAa7UAa2UAa5U2Aa10UAa3UAa3U2AaU15AaD3U2Aa10FaDU7HJ6UAa3UAa8U2A",
   "a2U2Aa22UAa7UAa2UDAa4U2Aa8EaU2Aa2U2Aa3U7MAa2U4Aa2UAa3Ea2U2Aa11DF6U10Aa2UAa6U3Aa3UAa4U3Aa2UAaUA",
   "a2U3Aa2U3Aa3U3Aa8DaAa3U4Aa5U3Aa3UAa4U2EaU6AaU14DaAa12D8U5GAa3KAa8UAa3UAa23UAa10GAa5U2NEaAa7UAa",
   "3UAa4U7Aa2UEa2HU2NU2Aa2Ea2U2Aa10U7LEa8IGAa2KAa8UAa3UAa23UAa10UAa5U2D2Aa7UAa3UAa4U7Aa2U6NAaUAa2",
   "E2U2Aa10UE2OU12JGAa2MAa8UAa3UAa23FAa16FJ2EaAa6EaUAa3UAa4FIU4I3AaI7HAa2Ea2U2Aa10Ea6I3Ea7UMC2UC1",
   "8U3C24UC9UCU2C7U3CU4C6UCUC8U6G10U2C3U12Aa58U4Aa29U37Aa2UAaULAa2LAaULAaL6Aa4LAa7LAa3UAaUAaL2Aa2",
   "LAa13LAa3U2Aa5UAaUAa6OUAa10U2Aa2Fa2U32B72UB33CEa2U4B27F4B6CBUB21C3B7CBC3UC15UEaCDa2Ea3Eb4F2U37",
   "C34EaC5EaC2EaC7Ea3C4Ea6C26Ea64Eb4Ea2Aa38UFaU5FaU2Aa39Cb2Da2AaDaFa3Aa90Eb5Aa68Eb5Aa82Eb6C7DaC63",
   "DaCUC4U2C7UCUC4U2C39DaCUC4U2C31DaCUC4U2C7UCUC4U2C7DaC7UC23DaC31DaCUC4U2C7DaC39DaC19U2F2Da2C28U",
   "3Da26U6C85HU2H6U2EbC630Eb9C29U3C81G8U7Cb13NCb7NU9NCb23U9Cb20U12Cb13UCb3UCb2U12C93DU2C10U6D10U6",
   "C15NC10U6C88KU7C42EaU5Eb70U10D29G2UD12U4D12U4DU3D42U2D5U11Da42Eb2U4Da26U6Da10EbU3Da2D32Da28U2D",
   "a2Eb63UEb29U2Eb11U6Eb10U6Eb14U2G15M2N14U49E76NUP2E45N2PEa43Fa3Ea12Fa6F52U8F4Ea56U3Ea15U3Ea51I9",
   "P2U5K43U2K3Fa8U8Eb35Fa4JG2LU5D108Da88E7Ea28G15J4NIFEbE2Aa155BEa4Aa90Ea6Aa22U2Aa6U2Aa38U2Aa6U2A",
   "a8UAaUAaUAaUAa31U2Aa53UAa15UAa14U2Aa6UAa19U2Aa3UAa9UAa47CAa23CbC6Cb5D2Da2CbDa7Cb5EaUFc4Aa7CbU2",
   "Aa27UDa5F8U3Aa11BBaC3Cb2Da4Eb3FFbG3HJNU15Aa18C2Cb7DaE4EaU15Aa57C2DDaCb15DaE2EaEb3Aa48CEEa4EbH2",
   "U4Aa91C9Cb12Aa242Cb14AaCAa121CCbC30Cb52D2Da11E12EbF11G7I4JAa37C2P3U22Aa11U21Aa139Cb20DAa150Cb1",
   "0Aa80C8Cb8Aa20D2Cb2DaCAa86C2Cb12Da2Cb10D8Da11EaEb2D2Da16EEa10Eb3Ea4Eb10FEb19FEbF4Eb24GAa4FAa4F",
   "2Aa28FAa35FAaFAa4F3AaEbAa7F2Aa7Cb14Aa31F3Aa24FAa14FDa7E4FaEaFaF2Cb28Ea4Cb16C256Cb512D14Da6E7Ea",
   "5E4Ea41G3Ea5Eb5G26U2G32UMG34K3G12LG8JK25H4K15LDa47NDa47NE13Ea3EbEa3E4Ea6Eb2Da107Eb7Fa2U5Da45UF",
   "aU5FaU2Da54Fa2U7DaFU14FDa23U9Da7UDa7UDa7UDa7UDa7UDa7UDa7UDa7UEa32Da24Ea4Da2Ea19EbFa10G7I2J5K5L",
   "M3N11U34C26UC89U12C214U26C12Oa4Aa56C3Cb3CAaUAa84Cb2U2Aa6Cb2Aa94CbU5Aa40EaJKUAa94UAa16C24F3M5Da",
   "16Ea20P2U9OaCb16Aa29D2UAa36Eb12DCb15Aa28D2DaAa50Cb15Aa12D4Aa47LaAa119D4Aa99D2Aa31DC6582M10D64A",
   "a20902Da22Ea8Eb8FaH9J21K5M13N3C1165U3C18Cb2C16CbC12CbC3CbCU9Eb48Ea300U20Ea32F2Ea18Fa8Ea28G6HFa",
   "Eb88U8Da23E4Ea5E2Ea107F2HF2Fa2G12F10FaG3IKG2H6K2L6N2L5M4P3U2N2UNUN5P3U21N3M2GFa2FEa5Da44MU3Eb1",
   "0U6E56U8Ea69IU8Ea12U6Eb28H2K2Ea84U11EaEb29U3Eb78UEb11U4Eb2G31UEa55U9Ea14U2Ea10U2Ea4Eb28G4Eb67U",
   "24Eb5Fa23U10F6U2F6U2F6U9F7UF7UG48H4G2L2M4U4H80Eb46U2Eb10U6B11172U12Eb23U4Eb49U4B2048Aa6702Fa2C",
   "b59Eb3U2Da106U38Aa7U12Aa5U5CAa25UAa5UAaUAa2UAa2UAa108F16NU16Aa365N16Aa64U2Aa54U7NCa32Aa12CbDN2",
   "Cb16Da10U6Aa4Ea3G7H2Aa21Cb2D2Aa10UAa19UAa4U4Aa3CbAaUAa135U2AaUAa94Cb2Aa94U3Aa6U2Aa6U2Aa6U2Aa3U",
   "3Aa7UAa7U10C3BaAa3D12UD26UD19UD2UD15U2D14U34D123U5D3U4D45U3D9Da75G2I2UEa12MU3GU47Ea46U130Ea29U",
   "3Ea49U15G28U4Ca31GCa4U9J3Ca27U5G43U5D30UDDa36U4Da14U42Ca38D2Ca38D80U2D10U6I36U4I36U4G40U8G52U1",
   "1GN11UN15UN7UN2UN11UN15UN7UN2U3P52U12G311U9G22U10G8U24N6UN42UN9U69D6U2DUD44UD2U3DU2DEb22UEb9G6",
   "3U8G9U48H19UH2U5H5E26Eb2U3EEa26U5EaU64Fa56U4H2Fa2H16U2H46Da4UDa2U5Da8UDa3UDa27K2U2Da3U4Da9KU7D",
   "a9U7Eb32G32U32G39U4G12U9Eb54U3Eb29U2Eb27U5Eb8G18U7G4U12G7U80Eb73U55H51U13H51U7H6K40U8K10U6P38U",
   "3P29U8P2U208Eb31UM42UM3U2M2U16P3U55PO3K40U8K42U22N26U38M28U20L23U9F78U4F30N6U9GEb66NU10KU2Fa25",
   "U7Fa10U6Fa53UFa14K3MU8G39U9Fa73H4GM2Fa10GH5UG20U11G18UG43IO3U62H7UHUH4UH15UH11U6G59U5G10U6HG3U",
   "G8U2G2U2G22UG7UG2UG5UKG9U2G2U2G3U2HU6GU5G7U2G7U3G5U11P10UPU2PUP38UP10UPU2PUP4UP10UP2U8P2U29I90",
   "MIUIKLM2U30G72U8G10U166G54U2G18H20U34G69U11G10U6I13U19Fa56LNU6Fa10U6P20U28H26KU2H15U4H16N7U185",
   "K60U100G83U12GM7U2MU2M8UM2UM30UM2U2M12U9M10U70L8U2L46U2L11U27J72U8J52L2J23KJ5U13N16G57U7O10U18",
   "2P34U14P10U6I9UI45UI14U10I29U3I32U2I22UI14U73J7UJ2UJ44U3JUJ2UJ9U8J10U6K6UK2UK37UK2UK6U7K10U310",
   "K25U7O17UO41U3O28PU85MU15L50U13LE879G42HU102E99G12UE4GU11H196U2636N99U13Eb1071OL9O29U10P3995U5",
   "H583U6841P58U1734F569U7G31UG10U4G2N79UN10U6G30U2G6U10G70U10G10UG7UG21U5G19U432P58U198K91U101Fa",
   "69L6U4LFa47L9U7Fa17U64IJL2MU11M2U14I6125K5L6U8I755M483U41PM9U8935N4UN7UN2UF2J285N4U15OU29L3U2O",
   "U14L4U8J396U2308G107U5G13U3G9U7G10U2G8U3932P250U6P436U76N46U2N23U9N116U60Ca246U10Ca39U2EaCa180",
   "H11N2U21Da70U122O20U12K20U12D87U9E18K7U135Ca85UCa71UCa2U2CaU2Ca2U2Ca4UCa12UCaUCa4DCa2UCa65UCa4",
   "U2Ca8UCa7UCa28UCa4UCa5UCaU3Ca7UCa338Da2U2Ca290E2U2Ca50H652U15H5UH15U1104N31U6O6U213I7UI17U2I7U",
   "I2UI5U5O62U33OU112L45U3L14U2L10U4L2U320N31U17L58U5LU464O42U214P43U4PU480N7UN4UN2UN15UG197U2G16",
   "U41I75LU4I10U4I2U785K68U76L61U194Fa4UFa27UFa2UFaU2FaUFa10UFa4UFaUFaU6FaU4FaUFaUFaUFa3UFa2UFaU2",
   "FaUFaUFaUFaUFaUFa2UFaU2Fa4UFa7UFa4UFa4UFaUFa10UFa17U5Fa3UFa5UFa17U52Fa2U270Ea44U4Ea100U12F15U2",
   "F14GUF15UF15G22U10Eb11G2M3Eb31KFEbF11EbFEbF2EbF3EbF3Eb5F8EbF7EbF10Fa2LM3F9EbFEb2F2EbF10Eb4F2Eb",
   "F10I18MU56F26EbF2U13Eb34F9IU4Eb9U7F2U14J6U154F33G12H3F6GF70GH2F20G12F37GF5G4H5G12F17G7H8F63GFG",
   "F182GF4G2HF62G2Fa4G7H5F24G18IG41IG86F5FaF16FaF3FaFFaFFaFFaF3FaF6Fa2F4FaFFa2F4FaF12G2H2F11G48F7",
   "0G10HI2J2LM2U4ON3G13U3G4I3J2KLM2U3F116O3U4O5G85K4OU6L12U4NU15G12U4G56U8G10U6G40U8G30U2M2P10U4P",
   "2U62J12ML3H9I6JI8J8IJ2I12LI12JK3I15J13K5LMK4M2NKLK4H5I13J6K11M2L6M3L2K10L6HK2L8MNL3J23K25L84U1",
   "2K14U2L4MO3L3N2U3L3M4O2PU5PL6M19N4O3M7N4O3POM3N3PU7O2M7N3O2PU2PN8OPU6N7O2U7M147UM55P37M10U1028",
   "B2Ca42711M7N2U32Eb4149N4OU6F222U2H5762U14J7473U15Oa622U2466Ca542U1504B2M4939U5O4192U56398B2U65",
   "534B2U65534B2U65534B2U65534B2U65534B2U65534B2U65534B2U65534B2U65534B2U65534B2UCaU30Ca96U128D24",
   "0U65038B131074"]

def ofName? (name : String) : Option Nat :=
  versions.find? fun version =>
    name == s!"v{version}" || name == s!"{version / 10}.{version % 10}"

def upTo (version : Nat) : CharSet := .ofRanges (table.ranges (· ≤ version))

end HttpScenario.Text.Age

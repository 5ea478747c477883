import NativeBuild.Unicode.Partition

/-!
# Ages

The table of the Unicode property `Age`: in which version of the standard a code point was first
assigned. The set of a version holds all that was assigned up to it.
-/

namespace NativeBuild.Unicode

/-- The code points in order: the version that first assigned them, and how many follow each other
with it. A version is spelled by a letter for its first number, from `A` on, and by its second
number; `Na` is none. -/
def ageRuns : String :=
  String.join [
    "A11f6C04A11eC08C21D01C012D03D1bE0eA159C05D02A12fC01A1aC05D011A146C09C21D08D15D03A12C01C2dE14A",
    "12E12Na2A11E03A11G01Na4A17Na1A11Na1A114Na1A12cE11A17C01C22A11C01A11C01A11C01A11C01A112C12C21D",
    "05D14C01A1cC01A142C01A1cC01A129E11C02C22C04A135C22A12C22A12C22E01A11cC02A18D12A12E06C210E04E1",
    "10E22F02G08Na1A126Na2A17K01A127K01A11C01Na2G02F11Na1B011D11B0dA1aE01A19B01D13Na8A11bNa4K01A15",
    "NabD04F11G01E15D11A11D09E15A11F31N01D11A11F01A11aE15A113C03D03D16F01A1eC22A148C02A15C01A1fC01",
    "A11eD02A1aC05D01C0eNa1C01eD03C01bNa2D03D11eE112C031C21NaeE03bNa2K03E22eNa2E2fNa1F01cNa2F01Na1",
    "J0bNa5N01fNa1N02Na5P01N08F11G01F1bG06H02N01I08M0aN0bK01I0fH01F11bG01E21A13D01A135F02A112E21F0",
    "1A15E21F02A119E12F05G01E22E02D11E02G01A13Na1A18Na2A12Na2A116Na1A17Na1A11Na3A14Na2A11D01A17Na2",
    "A12Na2A13D11Na8A11Na4A12Na1A15Na2A115E21J02K01Na2D01A11D01Na1A16Na4A12Na2A116Na1A17Na1A12Na1A",
    "12Na1A12Na2A11Na1A15Na4A12Na2A13Na3E11Na7A14Na1A11Na7A1fE11K01NaaA13Na1A17D01A11Na1A13Na1A116",
    "Na1A17Na1A12Na1A15Na2A1aNa1A13Na1A13Na2A11NafA11D03Na2A1aF11D01Na7H01J06Na1A13Na1A18Na2A12Na2",
    "A116Na1A17Na1A12Na1D01A14Na2A18E11Na2A12Na2A13Na7M01A12Na4A12Na1A13E12Na2A1bD01F06NaaA12Na1A1",
    "6Na3A13Na1A14Na3A12Na1A11Na1A12Na3A12Na3A13Na3A18D11A13Na4A15Na3A13Na1A14Na2E11Na6A11NaeD11A1",
    "cD08Na5G01A13K01A18Na1A13Na1A117Na1A1aG01A15Na2N01E11A17Na1A13Na1A14Na7A12Na1E12H01Na2N01Na2A",
    "12E12Na2A1aNa7L01E18I01G01A12K01A18Na1A13Na1A117Na1A1aNa1A15Na2D02A17Na1A13Na1A14Na7A12Na6N01",
    "A11Na1A12E02Na2A1aNa1E02O01NacJ01G01A12M01A18Na1A13Na1A117F01A110F01J02E11A16E11Na1A13Na1A14F",
    "01I01Na4I03A11I07H01A12E12Na2A1aE16I03E17Na1M01C02Na1C012Na3C018Na1C09Na1C01Na2C07Na3C01Na4C0",
    "6Na1C01Na1C08Na6G0aNa2C03NacA13aNa4A11dNa25A12Na1A11Na1L01A12L01A11Na1L01A11L06A14L01A17L01A1",
    "3Na1A11Na1A11L02A12L01A1dL01A13Na2A15Na1A11Na1A16O01Na1A1aNa2A12F12Na20B048Na1B021C01E12Na4B0",
    "1bF04B06C01B01Na1B015C03B07C01B01C03Na1C0fNa1E11C01D12E13E24F02Na25C022E11C05E11C02E11C07E13C",
    "04E16C01aE140E24E12A126Na1F11Na5F11Na2A127C22D12A11D11F13A15aE25A144E25A152E26C07D11C03fD11C0",
    "1Na1C04Na2C07Na1C01Na1C04Na2C027D11C01Na1C04Na2C01fD11C01Na1C04Na2C07Na1C01Na1C04Na2C07D11C07",
    "Na1C017D11C01fD11C01Na1C04Na2C07D11C027D11C013Na2F02D12C01cNa3D11aNa6C055H01Na2H06Na2E21C0276",
    "E29C01dNa3C051G08Na7C2dN01C27N01Na9N01C217Na9C214NacC2dNa1C23Na1C22NacC05dD01Na2C0aNa6D0aNa6C",
    "0fN01C0aNa6C058K01Na7C02aE11Na5E246NaaD01dG02Na1D0cNa4D0cNa4D01Na3D02aNa2D05NabD12aE22Na4D11a",
    "Na6D1aE21Na3D12D020D11cNa2D12E23fNa1E21dNa2E2bNa6E2aNa6E2eNa2G0fM02N0eNa31E04cN01Na1P02E02dN0",
    "2P01E12bF13E1cF16F034Na8F04E138Na3E1fNa3E133I09P02Na5K02bNa2K03F18Na8E223F14J01G02L01Na5D06cD",
    "158E07E11cG0fJ04N01I01F01E21E02A19bB01E14A15aE16A116Na2A16Na2A126Na2A16Na2A18Na1A11Na1A11Na1A",
    "11Na1A11fNa2A135Na1A1fNa1A1eNa2A16Na1A113Na2A13Na1A19Na1A12fC01A117C21C06C25D02D12C21D17C25E1",
    "1Na1F34A17C21Na2A11bNa1D15F08Na3A1bB01B11C03C22D14E23F01F21G03H01J01N01NafA112C02C27D11E04E11",
    "NafA139C02D01D11C2fD11E02E11E23A130C01E01E14E21H02Na4A15bC09C2cA1f2C2eA11C01A179C01C21C01eC23",
    "4D02D1bE0cE21F0bG07I04J01A125C02P03Na16A1bNa15A18bC214D01A196C2aA150C08C28A114D02C22D11C01A15",
    "6C02C2cD12C2aD08D1bE11E22D02D110E01E1aE23E14E2aF01E213F01E21F04E218G01A14F01A14F02A11cF01A123",
    "F01A11F01A14F03A11E21A17F02A17C2eA11fF03A118F01A1eF01D17E04F11E11F11F02C21cE14C210C0100C2200D",
    "0eD16E07E15E04E129G03E15E25G01aNa2G020Na1M01G022K03G0cL01G08J01K019H04K0fL01D12fN01D12fN01E0d",
    "E13E21E13E04E16E22D16bE27F12Na5D12dNa1F11Na5F11Na2D136F12Na7D11F01NaeF01D117Na9D17Na1D17Na1D1",
    "7Na1D17Na1D17Na1D17Na1D17Na1D17Na1E120D118E14D12E113E21F1aG07I02J05K05L01M03N0bNa22C01aNa1C05",
    "9NacC0d6Na1aC0cO14A138C03C23C01A11Na1A154C22Na2A16C22A15eC21Na5A128E11J01K01Na1A15eNa1A110C01",
    "8F03M05D110E114P02Na9O11C210A11dD02Na1A124E2cD01C2fA11cD02D11A132C2fA1cD04A12fL11A177D04A163D",
    "02A11fD01C019b6M0aD040A151a6D116E18E28F11H09J015K05M0dN03C048dNa3C012C22C010C21C0cC21C03C21C0",
    "1Na9E230E112cNa14E120F02E112F18E11cG06H01F11E258Na8D117E04E15E02E16bF02H01F02F12G0cF0aF11G03I",
    "01K01G02H06K02L06N02L05M04P03Na2N02Na1N01Na1N05P03Na15N03M02G01F12F01E15D12cM01Na3E2aNa6E038N",
    "a8E145I01Na8E1cNa6E21cH02K02E154NabE11E21dNa3E24eNa1E2bNa4E22G01fNa1E137Na9E1eNa2E1aNa2E14E21",
    "cG04E243Na18E25F117NaaF06Na2F06Na2F06Na9F07Na1F07Na1G030H04G02L02M04Na4H050E22eNa2E2aNa6B02ba",
    "4NacE217Na4E231Na4B0800A11a2eF12C23bE23Na2D16aNa26A17NacA15Na5C01A119Na1A15Na1A11Na1A12Na1A12",
    "Na1A16cF010N01Na10A116dN010A140Na2A136Na7N01C120A1cC21D01N02C210D1aNa6A14E13G07H02A115C22D02A",
    "1aNa1A113Na1A14Na4A13C21A11Na1A187Na2A11Na1A15eC22A15eNa3A16Na2A16Na2A16Na2A13Na3A17Na1A17Naa",
    "C03B11A13D0cNa1D01aNa1D013Na1D02Na1D0fNa2D0eNa22D07bNa5D03Na4D02dNa3D09D14bG02I02Na1E1cM01Na3",
    "G01Na2fE12eNa82E11dNa3E131NafG01cNa4C11fG01C14Na9J03C11bNa5G02bNa5D01eNa1D01D124Na4D1eNa2aC12",
    "6D02C126D050Na2D0aNa6I024Na4I024Na4G028Na8G034NabG01N0bNa1N0fNa1N07Na1N02Na1N0bNa1N0fNa1N07Na",
    "1N02Na3P034NacG0137Na9G016NaaG08Na18N06Na1N02aNa1N09Na45D06Na2D01Na1D02cNa1D02Na3D01Na2D01E21",
    "6Na1E29G03fNa8G09Na30H013Na1H02Na5H05E01aE22Na3E01E11aNa5E11Na40F138Na4H02F12H010Na2H02eD14Na",
    "1D12Na5D18Na1D13Na1D11bK02Na2D13Na4D19K01Na7D19Na7E220G020Na20G027Na4G0cNa9E236Na3E21dNa2E21b",
    "Na5E28G012Na7G04NacG07Na50E249Na37H033NadH033Na7H06K028Na8K0aNa6P026Na3P01dNa8P02Nad0E21fNa1M",
    "02aNa1M03Na2M02Na10P03Na37P01O03K028Na8K02aNa16N01aNa26M01cNa14L017Na9F04eNa4F01eN06Na9G01E24",
    "2N01NaaK01Na2F119Na7F1aNa6F135Na1F1eK03M01Na8G027Na9F149H04G01M02F1aG01H05Na1G014NabG012Na1G0",
    "2bI01O03Na3eH07Na1H01Na1H04Na1H0fNa1H0bNa6G03bNa5G0aNa6H01G03Na1G08Na2G02Na2G016Na1G07Na1G02N",
    "a1G05Na1K01G09Na2G02Na2G03Na2H01Na6G01Na5G07Na2G07Na3G05NabP0aNa1P01Na2P01Na1P026Na1P0aNa1P01",
    "Na2P01Na1P04Na1P0aNa1P02Na8P02Na1dI05aM01I01Na1I01K01L01M02Na1eG048Na8G0aNaa6G036Na2G012H014N",
    "a22G045NabG0aNa6I0dNa13F138L01N01Na6F1aNa6P014Na1cH01aK01Na2H0fNa4H010N07Nab9K03cNa64G053NacG",
    "01M07Na2M01Na2M08Na1M02Na1M01eNa1M02Na2M0cNa9M0aNa46L08Na2L02eNa2L0bNa1bJ048Na8J034L02J017K01",
    "J05NadN010G039Na7O0aNab6P022NaeP0aNa6I09Na1I02dNa1I0eNaaI01dNa3I020Na2I016Na1I0eNa49J07Na1J02",
    "Na1J02cNa3J01Na1J02Na1J09Na8J0aNa6K06Na1K02Na1K025Na1K02Na1K06Na7K0aNa136K019Na7O011Na1O029Na",
    "3O01cP01Na55M01NafL032NadL01E036fG02aH01Na66E063G0cNa1E04G01NabH0c4Naa4cN063NadE242fO01L09O01",
    "dNaaP0f9bNa5H0247Na1ab9P03aNa6c6F0239Na7G01fNa1G0aNa4G02N04fNa1N0aNa6G01eNa2G06NaaG046NaaG0aN",
    "a1G07Na1G015Na5G013Na1b0P03aNac6K05bNa65F145L06Na4L01F12fL09Na7F111Na40I01J01L02M01NabM02NaeI",
    "017edK05L06Na8I02f3M01e3Na29P01M09Na22e7N04Na1N07Na1N02Na1F02J011dN04NafO01Na1dL03Na2O01NaeL0",
    "4Na8J018cNa904G06bNa5G0dNa3G09Na7G0aNa2G08Naf5cP0faNa6P01b4Na4cN02eNa2N017Na9N074Na3cC1f6NaaC",
    "127Na2E11C1b4H0bN02Na15D146Na7aO014NacK014NacD057Na9E012K07Na87C155Na1C147Na1C12Na2C11Na2C12N",
    "a2C14Na1C1cNa1C11Na1C14D01C12Na1C141Na1C14Na2C18Na1C17Na1C11cNa1C14Na1C15Na1C11Na3C17Na1C1152",
    "D12Na2C1122E02Na2C132H028cNafH05Na1H0fNa450N01fNa6O06Nad5I07Na1I011Na2I07Na1I02Na1I05Na5O03eN",
    "a21O01Na70L02dNa3L0eNa2L0aNa4L02Na140N01fNa11L03aNa5L01Na1d0O02aNad6P02bNa4P01Na1e0N07Na1N04N",
    "a1N02Na1N0fNa1G0c5Na2G010Na29I04bL01Na4I0aNa4I02Na311K044Na4cL03dNac2F14Na1F11bNa1F12Na1F11Na",
    "2F11Na1F1aNa1F14Na1F11Na1F11Na6F11Na4F11Na1F11Na1F11Na1F13Na1F12Na1F11Na2F11Na1F11Na1F11Na1F1",
    "1Na1F11Na1F12Na1F11Na2F14Na1F17Na1F14Na1F14Na1F11Na1F1aNa1F111Na5F13Na1F15Na1F111Na34F12Na10e",
    "E12cNa4E164NacF0fNa2F0eG01Na1F0fNa1F0fG016NaaE2bG02M03E21fK01F01E21F0bE21F01E21F02E21F03E21F0",
    "3E25F08E21F07E21F0aF12L01M03F09E21F01E22F02E21F0aE24F02E21F0aI012M01Na38F01aE21F02NadE222F09I",
    "01Na4E29Na7F02NaeJ06Na9aF021G0cH03F06G01F046G01H02F014G0cF025G01F05G04H05G0cF011G07H08F03fG01",
    "F01G01F0b6G01F04G02H01F03eG02F14G07H05F018G012I01G029I01G056F05F11F010F11F03F11F01F11F01F11F0",
    "1F11F03F11F06F12F04F11F01F12F04F11F0cG02H02F0bG030F046G0aH01I02J02L01M02Na4O01N03G0dNa3G04I03",
    "J02K01L01M02Na3F074O03Na4O05G055K04O01Na6L0cNa4N01NafG0cNa4G038Na8G0aNa6G028Na8G01eNa2M02P0aN",
    "a4P02Na3eJ0cM01L03H09I06J01I08J08I01J02I0cL01I0cJ01K03I0fJ0dK05L01M01K04M02N01K01L01K04H05I0d",
    "J06K0bM02L06M03L02K0aL06H01K02L08M01N01L03J017K019L054NacK0eNa2L04M01O03L03N02Na3L03M04O02P01",
    "Na5P01L06M013N04O03M07N04O03P01O01M03N03P01Na7O02M07N03O02P01Na2P01N08O01P01Na6N07O02Na7M093N",
    "a1M037P025M0aNa404B02C1a6d7M07N02Na20E21035N04O01Na6F0deNa2H01682NaeJ01d31NafO126eNa9a2C121eN",
    "a5e0B02M0134bNa5O01060Nadc4eB02NafffeB02NafffeB02NafffeB02NafffeB02NafffeB02NafffeB02NafffeB0",
    "2NafffeB02NafffeB02NafffeB02Na1C11Na1eC160Na80D0f0Nafe0eB020002"]

/-- The age of each run. -/
def ages : Partition := Partition.ofCode 2 ageRuns

/-- The versions in order: the spelling above, and the name. -/
def versions : List (String × String) :=
  [("A1", "1.1"), ("B0", "2.0"), ("B1", "2.1"), ("C0", "3.0"), ("C1", "3.1"), ("C2", "3.2"),
   ("D0", "4.0"), ("D1", "4.1"), ("E0", "5.0"), ("E1", "5.1"), ("E2", "5.2"), ("F0", "6.0"),
   ("F1", "6.1"), ("F2", "6.2"), ("F3", "6.3"), ("G0", "7.0"), ("H0", "8.0"), ("I0", "9.0"),
   ("J0", "10.0"), ("K0", "11.0"), ("L0", "12.0"), ("L1", "12.1"), ("M0", "13.0"),
   ("N0", "14.0"), ("O0", "15.0"), ("O1", "15.1"), ("P0", "16.0")]

/-- The code points that are assigned in a version, by its name: the two numbers of the version with
a point between them, or without it and after a `v`. -/
def assignedIn? (name : String) : Option Ranges :=
  let isNamed := fun (v : String × String) =>
    name = v.2 || name = String.ofList ('v' :: v.2.toList.filter (· != '.'))
  if versions.any isNamed then
    let later := ((versions.dropWhile fun v => !isNamed v).drop 1).map (·.1)
    some (ages.select fun v => v != "Na" && v ∉ later)
  else none

end NativeBuild.Unicode
